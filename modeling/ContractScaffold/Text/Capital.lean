/-
Capital letters, as far as ASCII letters come out of them.

* `capital`: the capital form of a character. Beyond ASCII only the characters
  whose capital form holds an ASCII letter are mapped: an identifier keeps no
  other character of it.
-/
import ContractScaffold.Text.Basic

namespace ContractScaffold

namespace Text

/-- The characters beyond ASCII whose capital form holds an ASCII letter. -/
def capitalForms : List (Char × Text) :=
  [('ß', "SS"), ('ı', "I"), ('ŉ', "ʼN"), ('ſ', "S"), ('ǰ', "J\u030C"), ('ẖ', "H\u0331"),
   ('ẗ', "T\u0308"), ('ẘ', "W\u030A"), ('ẙ', "Y\u030A"), ('ẚ', "Aʾ"), ('ﬀ', "FF"),
   ('ﬁ', "FI"), ('ﬂ', "FL"), ('ﬃ', "FFI"), ('ﬄ', "FFL"), ('ﬅ', "ST"), ('ﬆ', "ST")]

/-- The capital form of a character. -/
def capital (c : Char) : Text :=
  if c.toNat < 0x80 then [c.toUpper] else (capitalForms.lookup c).getD [c]

end Text

end ContractScaffold
