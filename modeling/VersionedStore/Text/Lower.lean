import VersionedStore.Unicode.Current
import VersionedStore.Unicode.LetterCase

/-!
# Texts in small letters

`Text.lower` writes every letter small.  Two letters need more than their own mapping: the
capital `I` with a dot becomes two characters, and the capital sigma becomes the final sigma at
the end of a word, that is, after a cased letter and not before one, where characters that
case passes over do not count.
-/

set_option autoImplicit false

namespace VersionedStore.Text

open VersionedStore.Unicode

/-- The first character that case does not pass over is a cased letter. -/
def meetsCased : List Char → Bool
  | [] => false
  | c :: rest =>
    if currentCaseIgnorable.contains c then meetsCased rest else currentCased.contains c

/-- The small form of a character between the characters before it (nearest first) and those
behind it. -/
def lowerChar (before : List Char) (c : Char) (behind : List Char) : List Char :=
  if c.toNat = 0x3A3 then
    if meetsCased before && !meetsCased behind then [Char.ofNat 0x3C2] else [Char.ofNat 0x3C3]
  else if c.toNat = 0x130 then ['i', Char.ofNat 0x307]
  else [lowerOf c]

/-- The small form of characters that follow those of `before` (nearest first). -/
def lowerChars : List Char → List Char → List Char
  | _, [] => []
  | before, c :: rest => lowerChar before c rest ++ lowerChars (c :: before) rest

/-- A text in small letters. -/
def lower (text : String) : String := String.ofList (lowerChars [] text.toList)

end VersionedStore.Text
