import VersionedStore.Unicode.Current

/-!
# Quoted texts

A quoted text stands between double quotes.  Quotes, backslashes and the usual control
characters are escaped with a letter, and every other character that would not show by itself
(controls, formats, fillers, separators other than the space, unassigned and private code
points, and marks that attach to the character before) is escaped by its code point.
-/

set_option autoImplicit false

namespace VersionedStore.Text

open VersionedStore.Unicode

/-- Whether a character is shown as it is inside quotes. -/
def isShown (c : Char) : Bool :=
  if c.toNat < 127 then decide (32 ≤ c.toNat) else currentShown.contains c

/-- The escape of a character by its code point. -/
def codePointEscape (c : Char) : List Char :=
  "\\u\x7b".toList ++ Nat.toDigits 16 c.toNat ++ "\x7d".toList

/-- The characters that stand for a character inside quotes. -/
def quotedChar (c : Char) : List Char :=
  if c = '"' then ['\\', '"']
  else if c = '\\' then ['\\', '\\']
  else if c = '\n' then ['\\', 'n']
  else if c = '\r' then ['\\', 'r']
  else if c = '\t' then ['\\', 't']
  else if c.toNat = 0 then ['\\', '0']
  else if isShown c then [c]
  else codePointEscape c

/-- A text between double quotes. -/
def quote (text : String) : String :=
  String.ofList ('"' :: text.toList.flatMap quotedChar ++ ['"'])

end VersionedStore.Text
