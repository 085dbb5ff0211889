import VersionedStore.Unicode.Age
import VersionedStore.Unicode.Segmentation

/-!
# Named properties

A pattern can name a set of characters by a general category, a script or a yes-or-no property
of the Unicode standard, or by a property together with one of its values.  Names are compared
without letter case, blanks, underscores and hyphens, and a leading `is` may be left out.
-/

set_option autoImplicit false

namespace VersionedStore.Pattern

open VersionedStore.Unicode

/-- A name as it is compared. -/
def plainName (name : List Char) : String :=
  let small := name.map Char.toLower
  let plain (chars : List Char) : List Char :=
    chars.filter fun c => !(c == ' ' || c == '_' || c == '-') && decide (c.toNat < 128)
  match small with
  | 'i' :: 's' :: rest =>
    let kept := plain rest
    String.ofList (if kept == ['c'] then ['i', 's', 'c'] else kept)
  | chars => String.ofList (plain chars)

/-- The characters of a general category or of one of the sets named like one. -/
def categoryNamed? (name : String) : Option CharSet :=
  match name with
  | "any" => some .all
  | "assigned" => some assigned
  | "ascii" => some (.range 0 0x7F)
  | name => category? name

/-- The characters of a property named alone.  Three short names are those of categories. -/
def propertyNamed? (name : String) : Option CharSet :=
  let property :=
    if name == "cf" || name == "sc" || name == "lc" then none else property? name
  property <|> categoryNamed? name <|> script? name

/-- The characters of a property given with its value, such as a script. -/
def propertyValue? (property value : String) : Option CharSet :=
  match property with
  | "gc" | "generalcategory" => categoryNamed? value
  | "sc" | "script" => script? value
  | "scx" | "scriptextensions" => scriptExtension? value
  | "age" => bornBy? value
  | "gcb" | "graphemeclusterbreak" => graphemeBreak? value
  | "wb" | "wordbreak" => wordBreak? value
  | "sb" | "sentencebreak" => sentenceBreak? value
  | _ => none

/-- The parts around the first `!=` of a text; `before` holds what has been passed. -/
def aroundUnequal? (before : List Char) : List Char → Option (List Char × List Char)
  | '!' :: '=' :: rest => some (before.reverse, rest)
  | c :: rest => aroundUnequal? (c :: before) rest
  | [] => none

/-- The parts around the first occurrence of a character. -/
def around? (mark : Char) (content : List Char) : Option (List Char × List Char) :=
  let before := content.takeWhile (· != mark)
  if before.length < content.length then some (before, content.drop (before.length + 1)) else none

/-- The set that stands between the braces of a property, and whether a `!=` negates it. -/
def bracedProperty? (content : List Char) : Option (CharSet × Bool) :=
  match aroundUnequal? [] content with
  | some (name, value) => (propertyValue? (plainName name) (plainName value)).map (·, true)
  | none =>
    match around? ':' content <|> around? '=' content with
    | some (name, value) => (propertyValue? (plainName name) (plainName value)).map (·, false)
    | none => (propertyNamed? (plainName content)).map (·, false)

end VersionedStore.Pattern
