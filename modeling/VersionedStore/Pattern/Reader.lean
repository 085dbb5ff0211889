import VersionedStore.Pattern.Class
import VersionedStore.Pattern.Property
import VersionedStore.Pattern.Size
import VersionedStore.Text.Blank
import VersionedStore.Text.Hex
import VersionedStore.Unicode.Current

/-!
# Reading patterns

A pattern is read from left to right.  What is left of the text, the options in force and the
groups met so far are the state of the reader; options set inside a group end with it.  Every
round of the readers below takes at least one character, so that the length of the text bounds
their rounds.

How deep a pattern is nested is counted while it is read, for a pattern that is nested too
deeply is refused, and so is one that is too large.
-/

set_option autoImplicit false

namespace VersionedStore.Pattern

open VersionedStore.Unicode

/-- The options of a pattern. -/
structure Options where
  ignoreCase : Bool := false
  multiLine : Bool := false
  dotMatchesAll : Bool := false
  ignoreBlanks : Bool := false
  carriageReturn : Bool := false
  unicode : Bool := true

/-- The state of the reader: what is left of the text, the options in force, the names and the
number of the groups so far, and how many groups and brackets are open. -/
structure ReaderState where
  rest : List Char
  options : Options
  names : List String
  groups : Nat
  opened : Nat

/-- A step of reading a pattern. -/
abbrev Reader (α : Type) := StateT ReaderState (Except Fault) α

/-- The characters without the blanks and comments in front; a comment ends with its line. -/
def skipIgnored (inComment : Bool) : List Char → List Char
  | [] => []
  | c :: rest =>
    if inComment then skipIgnored (c != '\n') rest
    else if Text.isBlank c then skipIgnored false rest
    else if c = '#' then skipIgnored true rest
    else c :: rest

namespace Reader

/-- The characters that are left. -/
def remaining : Reader (List Char) := do return (← get).rest

/-- Leaves other characters. -/
def leave (chars : List Char) : Reader Unit := modify fun state => { state with rest := chars }

/-- The next character, if there is one. -/
def peek? : Reader (Option Char) := do return (← remaining).head?

/-- The next character; without one there is a fault. -/
def peek (fault : Fault) : Reader Char := do
  match ← peek? with
  | some c => pure c
  | none => throw fault

/-- The options in force. -/
def options : Reader Options := do return (← get).options

/-- Puts options into force. -/
def useOptions (options : Options) : Reader Unit :=
  modify fun state => { state with options := options }

/-- Passes over blanks and comments, if the options say so. -/
def skip : Reader Unit := do
  if (← options).ignoreBlanks then leave (skipIgnored false (← remaining))

/-- Takes a character. -/
def take : Reader Unit := do leave ((← remaining).drop 1)

/-- Takes a character and passes over blanks. -/
def takeAndSkip : Reader Unit := do
  take
  skip

/-- Takes characters as long as they satisfy a test, passing over blanks behind each. -/
def takeWhile (test : Char → Bool) : Nat → Reader (List Char)
  | 0 => pure []
  | rounds + 1 => do
    match ← peek? with
    | some c =>
      if test c then
        takeAndSkip
        return c :: (← takeWhile test rounds)
      else pure []
    | none => pure []

/-- Takes all characters that satisfy a test, passing over blanks behind each. -/
def takeAll (test : Char → Bool) : Reader (List Char) := do
  takeWhile test (← remaining).length

/-- A whole number between blanks that fits thirty-two bits. -/
def decimal : Reader Nat := do
  leave ((← remaining).dropWhile Text.isBlank)
  let digits ← takeAll Char.isDigit
  discard (takeAll Text.isBlank)
  let value := digits.foldl (fun n c => n * 10 + (c.toNat - 48)) 0
  if digits.isEmpty || decide (0x100000000 ≤ value) then throw .repetitionCount
  pure value

/-- The character of a code written in hexadecimal digits. -/
def hexChar (digits : List Char) : Reader Char := do
  match digits.mapM Text.hexDigit? with
  | none => throw .escape
  | some values =>
    let code := values.foldl (fun n d => n * 16 + d) 0
    if values.isEmpty || decide (0x110000 ≤ code) || decide (0xD800 ≤ code ∧ code ≤ 0xDFFF) then
      throw .escape
    pure (Char.ofNat code)

/-- A given number of characters, passing over blanks behind each. -/
def fixed : Nat → Reader (List Char)
  | 0 => pure []
  | count + 1 => do
    let c ← peek .escape
    takeAndSkip
    return c :: (← fixed count)

/-- The text up to a closing brace, which is taken too. -/
def braced (fault : Fault) : Reader (List Char) := do
  takeAndSkip
  let content ← takeAll (· != '\x7d')
  discard (peek fault)
  pure content

/-- How many constructs may stand inside each other. -/
def depthLimit : Nat := 250

/-- Reads what stands inside a group or brackets, unless too many are open already. -/
def inside {α : Type} (content : Reader α) : Reader α := do
  if depthLimit ≤ (← get).opened then throw .tooDeep
  modify fun state => { state with opened := state.opened + 1 }
  let result ← content
  modify fun state => { state with opened := state.opened - 1 }
  pure result

end Reader

/-- What an escape or a plain character stands for. -/
inductive Primitive where
  /-- A character; `byte` tells that it is written as a byte. -/
  | literal (c : Char) (byte : Bool)
  | charClass (set : CharSet)
  | assertion (assertion : Assertion)

open Reader

/-- The characters that have a meaning in patterns. -/
def isMeta (c : Char) : Bool := "\\.+*?()|[]\x7b\x7d^$#&-~".toList.contains c

/-- Whether a character stands for itself behind a backslash. -/
def isEscapable (c : Char) : Bool :=
  isMeta c || (decide (c.toNat < 128) && !c.isAlphanum && c != '<' && c != '>')

/-- A set, or its complement; without Unicode a set has ASCII characters only, so that it has no
complement. -/
def negate (options : Options) (negated : Bool) (set : CharSet) : Reader CharSet := do
  if negated && !options.unicode then throw .notText
  pure (set.negatedIf negated)

/-- A set with the letter cases that the options ignore. -/
def foldCase (options : Options) (set : CharSet) : CharSet :=
  if options.ignoreCase then closeCase (!options.unicode) set else set

/-- A class that is named by one letter behind a backslash; a capital negates it. -/
def letterClass (c : Char) (options : Options) : Reader CharSet :=
  negate options c.isUpper
    (match c.toLower with
      | 'd' => if options.unicode then decimalNumber else asciiDigit
      | 's' => if options.unicode then whiteSpace else asciiBlank
      | _ => if options.unicode then wordClass else asciiWord)

/-- A class that is named by a property, with the letter `p` or `P` next. -/
def propertyClass (options : Options) : Reader CharSet := do
  let negated := (← peek .escape) == 'P'
  takeAndSkip
  let found ←
    if (← peek .escape) == '\x7b' then do
      let content ← braced .escape
      take
      pure (bracedProperty? content)
    else do
      let c ← peek .escape
      if c = '\\' then throw .property
      takeAndSkip
      pure ((propertyNamed? (plainName [c])).map fun set => (set, false))
  match found with
  | none => throw .property
  | some (set, unequal) =>
    if !options.unicode then throw .property
    pure ((foldCase options set).negatedIf (negated != unequal))

/-- The assertion of a word boundary, with what follows it next: a brace with a word behind it
asks for one side only. -/
def wordBoundary (ascii : Bool) : Reader Assertion := do
  if (← peek?) == some '\x7b' then
    let start ← remaining
    takeAndSkip
    let isWordChar (c : Char) : Bool := c.isAlpha || c == '-'
    if isWordChar (← peek .escape) then
      let word ← takeAll isWordChar
      if (← peek .escape) != '\x7d' then throw .escape
      take
      match String.ofList word with
      | "start" => pure (.wordStart ascii)
      | "end" => pure (.wordEnd ascii)
      | "start-half" => pure (.wordStartHalf ascii)
      | "end-half" => pure (.wordEndHalf ascii)
      | _ => throw .escape
    else
      leave start
      pure (.wordBoundary ascii)
  else pure (.wordBoundary ascii)

/-- An escape, with its backslash next. -/
def escape : Reader Primitive := do
  take
  let options ← options
  let ascii := !options.unicode
  let c ← peek .escape
  if c.isDigit then throw .backreference
  if c = 'x' ∨ c = 'u' ∨ c = 'U' then
    takeAndSkip
    if (← peek .escape) == '\x7b' then
      let digits ← braced .escape
      takeAndSkip
      return .literal (← hexChar digits) false
    let count := if c = 'x' then 2 else if c = 'u' then 4 else 8
    let value ← hexChar (← fixed count)
    return .literal value (c == 'x')
  if c = 'p' ∨ c = 'P' then return .charClass (← propertyClass options)
  take
  if ['d', 'D', 's', 'S', 'w', 'W'].contains c then
    return .charClass (← letterClass c options)
  if isEscapable c then return .literal c false
  match c with
  | 'a' => pure (.literal (Char.ofNat 7) false)
  | 'f' => pure (.literal (Char.ofNat 12) false)
  | 't' => pure (.literal '\t' false)
  | 'n' => pure (.literal '\n' false)
  | 'r' => pure (.literal '\r' false)
  | 'v' => pure (.literal (Char.ofNat 11) false)
  | 'A' => pure (.assertion .textStart)
  | 'z' => pure (.assertion .textEnd)
  | 'b' => return .assertion (← wordBoundary ascii)
  | 'B' => pure (.assertion (.noWordBoundary ascii))
  | '<' => pure (.assertion (.wordStart ascii))
  | '>' => pure (.assertion (.wordEnd ascii))
  | _ => throw .escape

/-- The pattern of a character that stands for itself, in all letter cases that the options
ignore; without Unicode only the letters of ASCII have case, and a byte must be one of ASCII. -/
def literalNode (options : Options) (c : Char) (byte : Bool) : Reader Node := do
  if !options.unicode && byte && decide (127 < c.toNat) then throw .notText
  if !options.unicode && decide (127 < c.toNat) then pure (.literal [c])
  else pure (.ofSet (foldCase options (.single c)))

/-- The operations between the parts of a class. -/
inductive SetOperation where
  | intersection
  | difference
  | symmetricDifference

/-- Joins the parts of a class by an operation. -/
def SetOperation.apply : SetOperation → CharSet → CharSet → CharSet
  | .intersection => .intersection
  | .difference => .difference
  | .symmetricDifference => .symmetricDifference

/-- A class while it is read: its characters, the number of its items, and how deep these are
nested. -/
structure ClassPart where
  set : CharSet := .empty
  items : Nat := 0
  depth : Nat := 0

namespace ClassPart

/-- Adds an item with its own depth. -/
def add (part : ClassPart) (set : CharSet) (depth : Nat) : ClassPart :=
  ⟨part.set.union set, part.items + 1, max part.depth depth⟩

/-- The depth of the items together: several of them form one more level. -/
def level (part : ClassPart) : Nat := if part.items < 2 then part.depth else part.depth + 1

/-- Joins what stands before an operation with the part behind it; letter case is ignored in
each part by itself. -/
def join (options : Options) (before : Option (SetOperation × ClassPart)) (part : ClassPart) :
    ClassPart :=
  match before with
  | none => ⟨part.set, 1, part.level⟩
  | some (operation, first) =>
    ⟨operation.apply (foldCase options first.set) (foldCase options part.set), 1,
      max first.level part.level + 1⟩

end ClassPart

/-- A class named between colons inside a class, such as `[:alpha:]`, whether it is negated, and
what follows it. -/
def colonClass? : List Char → Option (CharSet × Bool × List Char)
  | '[' :: ':' :: rest =>
    let (negated, rest) : Bool × List Char :=
      match rest with
      | '^' :: rest => (true, rest)
      | rest => (false, rest)
    let name := rest.takeWhile (· != ':')
    match rest.dropWhile (· != ':') with
    | ':' :: ']' :: behind =>
      (named? colonClasses (String.ofList name)).map fun found => (found, negated, behind)
    | _ => none
  | _ => none

/-- One character or escape inside a class. -/
def classItem : Reader Primitive := do
  let c ← peek .unclosedClass
  if c = '\\' then escape
  else
    take
    pure (.literal c false)

/-- A character inside a class; without Unicode it must be one of ASCII. -/
def classLiteral (options : Options) : Primitive → Reader Char
  | .literal c _ =>
    if !options.unicode && decide (127 < c.toNat) then throw .notText else pure c
  | _ => throw .classRange

/-- The character that decides whether a hyphen stands for itself: the one behind it, or, with
blanks ignored, the one behind blanks, a number sign and blanks. -/
def follower? (options : Options) (behind : List Char) : Option Char :=
  if options.ignoreBlanks then
    let shown := behind.dropWhile Text.isBlank
    let shown := if shown.head? == some '#' then (shown.drop 1).dropWhile Text.isBlank else shown
    shown.head? <|> behind.head?
  else behind.head?

/-- A character, a range or an escaped class inside a class. -/
def classRange : Reader CharSet := do
  let options ← options
  let first ← classItem
  skip
  let next ← peek .unclosedClass
  let follower := follower? options ((← remaining).drop 1)
  if next != '-' || follower == some ']' || follower == some '-' then
    match first with
    | .literal _ _ => return .single (← classLiteral options first)
    | .charClass set => return set
    | .assertion _ => throw .classItem
  takeAndSkip
  discard (peek .unclosedClass)
  let last ← classItem
  let low ← classLiteral options first
  let high ← classLiteral options last
  if high.toNat < low.toNat then throw .classRange
  pure (.range low.toNat high.toNat)

mutual

/-- A class in brackets, with its opening bracket next: its characters and its depth. -/
def bracketed : Nat → Reader (CharSet × Nat)
  | 0 => throw .unclosedClass
  | rounds + 1 => do
    takeAndSkip
    let options ← options
    let negated := (← peek .unclosedClass) == '^'
    if negated then takeAndSkip
    let hyphens ← takeAll (· == '-')
    let first ← peek .unclosedClass
    let opening ←
      if hyphens.isEmpty then
        if first == ']' then do
          takeAndSkip
          discard (peek .unclosedClass)
          pure (ClassPart.add {} (.single ']') 0)
        else pure {}
      else pure ⟨.single '-', hyphens.length, 0⟩
    let content ← inside (classParts rounds none opening)
    pure (← negate options negated (foldCase options content.set), content.depth + 1)

/-- The parts of a class behind its opening, up to the closing bracket, which is taken too. -/
def classParts : Nat → Option (SetOperation × ClassPart) → ClassPart → Reader ClassPart
  | 0, _, _ => throw .unclosedClass
  | rounds + 1, before, part => do
    skip
    let options ← options
    let operation (operation : SetOperation) : Reader ClassPart := do
      leave ((← remaining).drop 2)
      classParts rounds (some (operation, ClassPart.join options before part)) {}
    match ← remaining with
    | [] => throw .unclosedClass
    | ']' :: _ => do
      take
      pure (ClassPart.join options before part)
    | '&' :: '&' :: _ => operation .intersection
    | '-' :: '-' :: _ => operation .difference
    | '~' :: '~' :: _ => operation .symmetricDifference
    | '[' :: rest => do
      match colonClass? ('[' :: rest) with
      | some (found, negated, behind) =>
        leave behind
        let found ← negate options negated (foldCase options found)
        classParts rounds before (part.add found 0)
      | none =>
        let (found, depth) ← bracketed rounds
        classParts rounds before (part.add found depth)
    | _ => do
      let found ← classRange
      classParts rounds before (part.add found 0)

end

/-- Whether a character may stand in the name of a group. -/
def isNameChar (first : Bool) (c : Char) : Bool :=
  c == '_' || currentAlphabetic.contains c ||
    (!first && (c == '.' || c == '[' || c == ']' || currentNumber.contains c))

/-- The name of a group up to its closing angle; no two groups share a name. -/
def groupName : Reader Unit := do
  let chars ← remaining
  let name := chars.takeWhile (· != '>')
  let proper :=
    match name with
    | [] => false
    | first :: rest => isNameChar true first && rest.all (isNameChar false)
  if name.length = chars.length || !proper then throw .groupName
  if (← get).names.contains (String.ofList name) then throw .groupName
  modify fun state =>
    { state with
      rest := chars.drop (name.length + 1)
      names := String.ofList name :: state.names }

/-- Sets or clears the option of a letter. -/
def setOption (value : Bool) (options : Options) : Char → Options
  | 'i' => { options with ignoreCase := value }
  | 'm' => { options with multiLine := value }
  | 's' => { options with dotMatchesAll := value }
  | 'x' => { options with ignoreBlanks := value }
  | 'R' => { options with carriageReturn := value }
  | 'u' => { options with unicode := value }
  | _ => options

/-- The options that option letters change; those behind a hyphen are cleared.  No letter comes
twice, and the hyphen is not the last. -/
def changeOptions (letters : List Char) (options : Options) : Except Fault Options :=
  let known := letters.all fun c => "imsxURu-".toList.contains c
  if !known || letters.eraseDups.length != letters.length || letters.getLast? == some '-' then
    .error .flags
  else
    let on := letters.takeWhile (· != '-')
    let off := (letters.dropWhile (· != '-')).drop 1
    .ok (off.foldl (setOption false) (on.foldl (setOption true) options))

/-- What stands behind the opening parenthesis of a group. -/
inductive GroupOpening where
  /-- A group with these options inside; a number tells it from all others, unless it only keeps
  its content apart. -/
  | group (number : Option Nat) (options : Options)
  /-- No group: the options for what follows. -/
  | setting (options : Options)

/-- The number of a new group. -/
def newGroup : Reader Nat := do
  let number := (← get).groups
  modify fun state => { state with groups := number + 1 }
  pure number

/-- Reads what stands behind an opening parenthesis. -/
def groupOpening : Reader GroupOpening := do
  takeAndSkip
  let options ← options
  match ← remaining with
  | '?' :: '=' :: _ | '?' :: '!' :: _ | '?' :: '<' :: '=' :: _ | '?' :: '<' :: '!' :: _ =>
    throw .lookAround
  | '?' :: 'P' :: '<' :: rest | '?' :: '<' :: rest => do
    leave rest
    groupName
    return .group (some (← newGroup)) options
  | '?' :: rest => do
    let letters := rest.takeWhile fun c => c != ':' && c != ')'
    let changed ← MonadExcept.ofExcept (changeOptions letters options)
    match rest.dropWhile fun c => c != ':' && c != ')' with
    | ':' :: behind => do
      leave behind
      pure (.group none changed)
    | ')' :: behind => do
      if letters.isEmpty then throw .repetitionOfNothing
      leave behind
      pure (.setting changed)
    | _ => throw .flags
  | _ => return .group (some (← newGroup)) options

/-- The bounds of a counted repetition, with its opening brace next. -/
def bounds : Reader (Nat × Option Nat) := do
  takeAndSkip
  let least ← decimal
  let most ←
    if (← peek .repetitionCount) == ',' then do
      takeAndSkip
      if (← peek .repetitionCount) == '\x7d' then pure none
      else pure (some (← decimal))
    else pure (some least)
  if (← peek .repetitionCount) != '\x7d' then throw .repetitionCount
  takeAndSkip
  if most.any (· < least) then throw .repetitionCount
  pure (least, most)

/-- An item of a sequence: a pattern with its depth, or a setting of options. -/
inductive Item where
  | part (node : Node) (depth : Nat)
  | setting

namespace Item

/-- The pattern of an item. -/
def node : Item → Node
  | .part node _ => node
  | .setting => .empty

/-- How deep an item is nested. -/
def depth : Item → Nat
  | .part _ depth => depth
  | .setting => 0

/-- The greatest depth of some items, and one more if there are several. -/
def levelOf (items : List Item) : Nat :=
  let deepest := (items.map depth).foldl max 0
  if items.length < 2 then deepest else deepest + 1

/-- The sequence of items, which are listed backwards. -/
def sequence (items : List Item) : Item :=
  .part (.ofSequence (items.reverse.map node)) (levelOf items)

/-- The alternatives between items, which are listed backwards. -/
def alternatives (items : List Item) : Item :=
  match items with
  | [item] => item
  | items => .part (.ofAlternatives (items.reverse.map node)) (levelOf items)

end Item

/-- Puts a repetition in the place of the last item; a setting of options cannot be repeated.  A
question mark behind it does not change where the pattern occurs. -/
def repeated (least : Nat) (most : Option Nat) : List Item → Reader (List Item)
  | .part node depth :: items => do
    if (← peek?) == some '?' then take
    pure (.part (.ofRepetition node least most) (depth + 1) :: items)
  | _ => throw .repetitionOfNothing

/-- What a plain character or an escape stands for. -/
def primitive : Reader Node := do
  let options ← options
  match ← peek .escape with
  | '\\' => do
    match ← escape with
    | .literal c byte => literalNode options c byte
    | .charClass set => pure (.ofSet set)
    | .assertion assertion => pure (.assert assertion)
  | '.' => do
    take
    if !options.unicode then throw .notText
    if options.dotMatchesAll then pure (.oneOf .all)
    else if options.carriageReturn then
      pure (.oneOf (CharSet.ofChars ['\n', '\r']).complement)
    else pure (.oneOf (CharSet.single '\n').complement)
  | '^' => do
    take
    pure (.assert (if options.multiLine then .lineStart options.carriageReturn else .textStart))
  | '$' => do
    take
    pure (.assert (if options.multiLine then .lineEnd options.carriageReturn else .textEnd))
  | c => do
    take
    literalNode options c false

/-- Reads alternatives up to the end of the text, or inside a group up to the closing
parenthesis, which is taken too; alternatives and items that have been read are listed
backwards. -/
def alternatives (inGroup : Bool) : Nat → List Item → List Item → Reader Item
  | 0, _, _ => throw .unclosedGroup
  | rounds + 1, before, items => do
    skip
    match ← peek? with
    | none =>
      if inGroup then throw .unclosedGroup
      else pure (Item.alternatives (Item.sequence items :: before))
    | some ')' => do
      if !inGroup then throw .unopenedGroup
      take
      pure (Item.alternatives (Item.sequence items :: before))
    | some '|' => do
      take
      alternatives inGroup rounds (Item.sequence items :: before) []
    | some '(' => do
      let outer ← options
      match ← groupOpening with
      | .setting changed =>
        useOptions changed
        alternatives inGroup rounds before (.setting :: items)
      | .group number inner =>
        useOptions inner
        let content ← inside (alternatives true rounds [] [])
        useOptions outer
        let node :=
          match number with
          | some number => .group number content.node
          | none => content.node
        alternatives inGroup rounds before (.part node (content.depth + 1) :: items)
    | some '[' => do
      let (set, depth) ← bracketed (← remaining).length
      alternatives inGroup rounds before (.part (.ofSet set) depth :: items)
    | some '?' => do
      take
      alternatives inGroup rounds before (← repeated 0 (some 1) items)
    | some '*' => do
      take
      alternatives inGroup rounds before (← repeated 0 none items)
    | some '+' => do
      take
      alternatives inGroup rounds before (← repeated 1 none items)
    | some '\x7b' => do
      let (least, most) ← bounds
      alternatives inGroup rounds before (← repeated least most items)
    | some _ => do
      let node ← primitive
      alternatives inGroup rounds before (.part node 0 :: items)

/-- Reads a pattern under given options. -/
def read (options : Options) (text : String) : Except Fault Node := do
  let chars := text.toList
  let item ← (alternatives false (2 * chars.length + 2) [] []).run' ⟨chars, options, [], 0, 0⟩
  if depthLimit < item.depth then throw .tooDeep
  if item.node.isTooLarge then throw .tooLarge
  pure item.node

end VersionedStore.Pattern
