import VersionedStore.Json
import VersionedStore.Number.Integer
import VersionedStore.Text.Hex

/-!
# Reading JSON

`Json.read?` reads one value with nothing but blanks around it.  The characters that are left are
the state of a `Reading`.  Values stand inside each other, and the nesting is bounded by the
number of characters.
-/

set_option autoImplicit false

namespace VersionedStore.Json

/-- A step of reading: it takes characters from those that are left, unless they do not fit. -/
abbrev Reading (α : Type) := StateT (List Char) Option α

/-- Whether a character may stand between the parts of a text. -/
def isSpace (c : Char) : Bool := c == ' ' || c == '\n' || c == '\t' || c == '\r'

/-- Passes over blanks. -/
def spaces : Reading Unit := modify fun chars => chars.dropWhile isSpace

/-- The next character. -/
def next : Reading Char := do
  match ← get with
  | [] => failure
  | c :: rest =>
    set rest
    pure c

/-- Whether the next character is a given one, which is taken then. -/
def takes (expected : Char) : Reading Bool := do
  match ← get with
  | [] => pure false
  | c :: rest =>
    if c = expected then
      set rest
      pure true
    else pure false

/-- A given character. -/
def mark (expected : Char) : Reading Unit := do
  if ← takes expected then pure () else failure

/-- The characters of a word. -/
def word : List Char → Reading Unit
  | [] => pure ()
  | c :: rest => do
    mark c
    word rest

/-- Whether a character is a decimal digit. -/
def isDigit (c : Char) : Bool := (Integer.digit? c).isSome

/-- The digits in front, none at all included. -/
def digits : Reading (List Char) := do
  let chars ← get
  set (chars.dropWhile isDigit)
  pure (chars.takeWhile isDigit)

/-- The digits in front, at least one. -/
def someDigits : Reading (List Char) := do
  let found ← digits
  if found.isEmpty then failure else pure found

/-- The digits in front of the point: a zero alone, or digits that begin with another one. -/
def wholeDigits : Reading (List Char) := do
  let found ← someDigits
  match found with
  | '0' :: _ :: _ => failure
  | _ => pure found

/-- An exponent, if there is one. -/
def exponentPart : Reading (Option (Bool × List Char)) := do
  if (← takes 'e') || (← takes 'E') then
    let negative ← takes '-'
    if !negative then discard (takes '+')
    let found ← someDigits
    pure (some (negative, found))
  else pure none

/-- A number. -/
def numeral : Reading Numeral := do
  let negative ← takes '-'
  let whole ← wholeDigits
  let pointed ← takes '.'
  let fraction ← if pointed then some <$> someDigits else pure none
  let exponent ← exponentPart
  pure ⟨negative, whole, fraction, exponent⟩

/-- The four hexadecimal digits of an escaped unit. -/
def escapedUnit : Reading Nat := do
  let mut value := 0
  for _ in [0, 1, 2, 3] do
    match Text.hexDigit? (← next) with
    | some digit => value := value * 16 + digit
    | none => failure
  pure value

/-- What stands behind a backslash in a string. -/
def escaped : Reading Mark := do
  match ← next with
  | '"' => pure (.char '"')
  | '\\' => pure (.char '\\')
  | '/' => pure (.char '/')
  | 'b' => pure (.char '\x08')
  | 'f' => pure (.char '\x0c')
  | 'n' => pure (.char '\n')
  | 'r' => pure (.char '\r')
  | 't' => pure (.char '\t')
  | 'u' => Mark.unit <$> escapedUnit
  | _ => failure

/-- The rest of a string, up to its closing quote; control characters have to be escaped.  No
more characters are read than the fuel says. -/
def stringRest : Nat → Reading (List Mark)
  | 0 => failure
  | fuel + 1 => do
    let c ← next
    if c = '"' then pure []
    else if c = '\\' then
      let first ← escaped
      let others ← stringRest fuel
      pure (first :: others)
    else if c.toNat < 0x20 then failure
    else
      let others ← stringRest fuel
      pure (.char c :: others)

mutual

/-- A value. -/
def value : Nat → Reading Json
  | 0 => failure
  | fuel + 1 => do
    spaces
    match ← get with
    | [] => failure
    | c :: rest =>
      if c = '"' then
        set rest
        Json.string <$> stringRest fuel
      else if c = '[' then
        set rest
        spaces
        if ← takes ']' then pure (.array []) else Json.array <$> items fuel
      else if c = '\x7b' then
        set rest
        spaces
        if ← takes '\x7d' then pure (.object []) else Json.object <$> fields fuel
      else if c = 't' then
        word ['t', 'r', 'u', 'e']
        pure (.boolean true)
      else if c = 'f' then
        word ['f', 'a', 'l', 's', 'e']
        pure (.boolean false)
      else if c = 'n' then
        word ['n', 'u', 'l', 'l']
        pure .null
      else Json.number <$> numeral

/-- The items of an array, of which there is at least one, up to its closing bracket. -/
def items : Nat → Reading (List Json)
  | 0 => failure
  | fuel + 1 => do
    let item ← value fuel
    spaces
    if ← takes ',' then
      let rest ← items fuel
      pure (item :: rest)
    else
      mark ']'
      pure [item]

/-- The fields of an object, of which there is at least one, up to its closing brace. -/
def fields : Nat → Reading (List (List Mark × Json))
  | 0 => failure
  | fuel + 1 => do
    spaces
    mark '"'
    let name ← stringRest fuel
    spaces
    mark ':'
    let held ← value fuel
    spaces
    if ← takes ',' then
      let rest ← fields fuel
      pure ((name, held) :: rest)
    else
      mark '\x7d'
      pure [(name, held)]

end

/-- A value with nothing but blanks around it.  Each value inside another is behind a character
of its own, and so is each item and each field, so that the fuel is always more than the number
of characters that are left. -/
def whole : Reading Json := do
  let read ← value (2 * (← get).length + 2)
  spaces
  match ← get with
  | [] => pure read
  | _ => failure

/-- Reads a text. -/
def read? (text : String) : Option Json := whole.run' text.toList

end VersionedStore.Json
