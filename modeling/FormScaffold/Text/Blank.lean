/-!
# White space

White space is what Unicode gives the property `White_Space`: twenty-five characters.  Texts are
trimmed, split into words and called blank with respect to it.
-/

namespace FormScaffold.Text

/-- A character with the Unicode property `White_Space`. -/
def isBlank (c : Char) : Bool :=
  (0x9 ≤ c.toNat && c.toNat ≤ 0xD) || (0x2000 ≤ c.toNat && c.toNat ≤ 0x200A) ||
    [0x20, 0x85, 0xA0, 0x1680, 0x2028, 0x2029, 0x202F, 0x205F, 0x3000].contains c.toNat

/-- A text without a character that is not white space. -/
def AllBlank (s : String) : Prop := s.toList.all isBlank = true

instance (s : String) : Decidable (AllBlank s) := inferInstanceAs (Decidable (_ = true))

/-- The characters between the white space at both ends. -/
def trimChars (cs : List Char) : List Char :=
  ((cs.dropWhile isBlank).reverse.dropWhile isBlank).reverse

/-- The text without the white space at both ends. -/
def trim (s : String) : String := String.ofList (trimChars s.toList)

end FormScaffold.Text
