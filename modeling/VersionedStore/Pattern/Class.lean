import VersionedStore.Unicode.LetterCase
import VersionedStore.Unicode.Property

/-!
# Classes of characters

The classes that a pattern names by a letter behind a backslash or by a word between colons,
and how a class ignores letter case.
-/

set_option autoImplicit false

namespace VersionedStore.Pattern

open VersionedStore.Unicode

/-- The characters of words: letters, marks, digits, connecting punctuation and joiners. -/
def wordClass : CharSet :=
  .unionAll [alphabetic, mark, decimalNumber, connectorPunctuation, joinControl]

/-- The characters of ASCII. -/
def ascii : CharSet := .range 0 0x7F

/-- The digits of ASCII. -/
def asciiDigit : CharSet := .ofText ["30-39"]

/-- The blanks of ASCII. -/
def asciiBlank : CharSet := .ofText ["9-d 20"]

/-- The word characters of ASCII. -/
def asciiWord : CharSet := .ofText ["30-39 41-5a 5f 61-7a"]

/-- The classes that are named inside brackets and colons. -/
def colonClasses : List (List String × CharSet) :=
  [(["alnum"], .ofText ["30-39 41-5a 61-7a"]), (["alpha"], .ofText ["41-5a 61-7a"]),
   (["ascii"], ascii), (["blank"], .ofText ["9 20"]), (["cntrl"], .ofText ["0-1f 7f"]),
   (["digit"], asciiDigit), (["graph"], .ofText ["21-7e"]), (["lower"], .ofText ["61-7a"]),
   (["print"], .ofText ["20-7e"]), (["punct"], .ofText ["21-2f 3a-40 5b-60 7b-7e"]),
   (["space"], asciiBlank), (["upper"], .ofText ["41-5a"]), (["word"], asciiWord),
   (["xdigit"], .ofText ["30-39 41-46 61-66"])]

/-- A class with all letter cases of its characters; within ASCII, or in the whole standard. -/
def closeCase (inAscii : Bool) (set : CharSet) : CharSet :=
  if inAscii then set.union (set.closeCase.intersection ascii) else set.closeCase

end VersionedStore.Pattern
