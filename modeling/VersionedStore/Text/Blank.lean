/-!
# Blanks

The blanks of the Unicode standard (the characters with the property `White_Space`), and texts
without the blanks around them.
-/

set_option autoImplicit false

namespace VersionedStore.Text

/-- Whether a character is a blank. -/
def isBlank (c : Char) : Bool :=
  let code := c.toNat
  decide (9 ≤ code ∧ code ≤ 13) || code == 0x20 || code == 0x85 || code == 0xA0 ||
    code == 0x1680 || decide (0x2000 ≤ code ∧ code ≤ 0x200A) || code == 0x2028 ||
    code == 0x2029 || code == 0x202F || code == 0x205F || code == 0x3000

/-- The characters without the blanks in front. -/
def trimStart (chars : List Char) : List Char := chars.dropWhile isBlank

/-- The characters without the blanks in front and behind. -/
def trimChars (chars : List Char) : List Char :=
  (trimStart (trimStart chars).reverse).reverse

/-- A text without the blanks in front and behind. -/
def trim (text : String) : String := String.ofList (trimChars text.toList)

/-- The pieces of a text between the occurrences of a character; a text without it is one
piece. -/
def pieces (mark : Char) (text : String) : List String :=
  (text.toList.splitOn mark).map String.ofList

/-- The texts joined with a separator between each two. -/
def join (separator : String) (texts : List String) : String := String.intercalate separator texts

end VersionedStore.Text
