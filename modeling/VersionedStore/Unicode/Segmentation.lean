import VersionedStore.Unicode.Property
import VersionedStore.Unicode.Script

/-!
# Boundaries in texts

Where a text can be cut into user-perceived characters, words and sentences depends on three
properties of characters: the grapheme cluster break, the word break and the sentence break.
Every character has at most one value of each.  Most values follow from categories and
properties by the formulas of the standard, and the others are short tables.

* `graphemeBreak?`, `wordBreak?`, `sentenceBreak?`: the characters with a value, by its name.
-/

set_option autoImplicit false

namespace VersionedStore.Unicode

/-! ## Characters that several of the properties share -/

/-- The carriage return. -/
def carriageReturn : CharSet := .ofText ["d"]

/-- The line feed. -/
def lineFeed : CharSet := .ofText ["a"]

/-- The joiner that takes no place. -/
def zeroWidthJoiner : CharSet := .ofText ["200d"]

/-! ## Grapheme cluster breaks -/

/-- Characters that stand apart from all others. -/
def breakingControl : CharSet :=
  (CharSet.unionAll
    [control, format, lineSeparator, paragraphSeparator,
     unassigned.intersection defaultIgnorable]).difference
    (.unionAll
      [carriageReturn, lineFeed, zeroWidthJoiner, prependedConcatenationMark, graphemeExtend])

/-- Characters that stay with the one before. -/
def extending : CharSet := graphemeExtend.union emojiModifier

/-- Consonants at the start of a Hangul syllable. -/
def leadingJamo : CharSet := .ofText ["1100-115f a960-a97c"]

/-- Vowels of a Hangul syllable. -/
def vowelJamo : CharSet := .ofText ["1160-11a7 d7b0-d7c6 16d63 16d67-16d6a"]

/-- Consonants at the end of a Hangul syllable. -/
def trailingJamo : CharSet := .ofText ["11a8-11ff d7cb-d7fb"]

/-- Hangul syllables without a consonant at the end: one in twenty-eight. -/
def openSyllable : CharSet :=
  .ofRanges ((List.range 399).map fun i => (0xAC00 + 28 * i, 0xAC00 + 28 * i))

/-- Hangul syllables with a consonant at the end. -/
def closedSyllable : CharSet := (CharSet.range 0xAC00 0xD7A3).difference openSyllable

/-- Characters that stay with the one behind. -/
def prepended : CharSet :=
  prependedConcatenationMark.union
    (.ofText ["d4e 111c2-111c3 113d1 1193f 11941 11a3a 11a84-11a89 11d46 11f02"])

/-- Spacing marks that stay with the one before. -/
def attachedMark : CharSet :=
  ((spacingMark.difference graphemeExtend).union (.ofText ["e33 eb3"])).difference
    (.ofText
      ["102b-102c 1038 1062-1064 1067-106d 1083 1087-108c 108f 109a-109c 1a61 1a63-1a64 aa7b",
       "aa7d 11720-11721"])

/-- The values of the grapheme cluster break under all their names. -/
def graphemeBreaks : List (List String × CharSet) :=
  [(["cn", "control"], breakingControl), (["cr"], carriageReturn), (["ex", "extend"], extending),
   (["l"], leadingJamo), (["lf"], lineFeed), (["lv"], openSyllable), (["lvt"], closedSyllable),
   (["pp", "prepend"], prepended), (["ri", "regionalindicator"], regionalIndicator),
   (["sm", "spacingmark"], attachedMark), (["t"], trailingJamo), (["v"], vowelJamo),
   (["zwj"], zeroWidthJoiner)]

/-- The characters with a value of the grapheme cluster break. -/
def graphemeBreak? (name : String) : Option CharSet := named? graphemeBreaks name

/-! ## Word breaks -/

/-- Marks that stay with the character before. -/
def wordExtending : CharSet :=
  (CharSet.unionAll [graphemeExtend, spacingMark, emojiModifier]).difference zeroWidthJoiner

/-- The letters of Hebrew. -/
def hebrewLetter : CharSet := (inScripts ["hebr"]).intersection otherLetter

/-- Katakana, with the marks that go with it. -/
def katakana : CharSet :=
  (inScripts ["kana"]).union (.ofText ["3031-3035 309b-309c 30a0 30fc ff70"])

/-- Signs that count as letters of words. -/
def letterLike : CharSet := .ofText
  ["2c2-2c5 2d2-2d7 2de-2df 2e5-2eb 2ed 2ef-2ff 55a-55c 55e 58a 5f3 70f a708-a716 a720-a721",
   "a789-a78a ab5b"]

/-- Letters of words that are parted by blanks. -/
def wordLetter : CharSet :=
  (alphabetic.difference
    (.unionAll
      [ideographic, katakana, inScripts ["hira"],
       inScripts ["thai", "laoo", "mymr", "khmr", "tale", "talu", "lana", "tavt", "ahom"],
       wordExtending, hebrewLetter, decimalNumber])).union letterLike

/-- Characters that join letters, digits and Katakana. -/
def wordJoiner : CharSet := connectorPunctuation.union (.ofText ["202f"])

/-- Formats that a word passes over. -/
def wordFormat : CharSet :=
  format.difference
    (.unionAll [.ofText ["200b 200d"], prependedConcatenationMark, graphemeExtend])

/-- Marks between letters. -/
def midLetter : CharSet := .ofText ["3a b7 387 55f 5f4 2027 fe13 fe55 ff1a"]

/-- Marks between digits. -/
def midNumber : CharSet := .ofText
  ["2c 3b 37e 589 60c-60d 66c 7f8 2044 fe50 fe54 ff0c ff1b"]

/-- Marks between letters or between digits. -/
def midLetterOrNumber : CharSet := .ofText ["2e 2018-2019 2024 fe52 ff07 ff0e"]

/-- Line ends other than the carriage return and the line feed. -/
def otherNewline : CharSet := .ofText ["b-c 85 2028-2029"]

/-- Digits and what goes with them. -/
def wordNumber : CharSet :=
  decimalNumber.union (.ofText ["600-605 66b 6dd 890-891 8e2 19da 110bd 110cd"])

/-- Blanks at which a line may break. -/
def wordBlank : CharSet := spaceSeparator.difference (.ofText ["a0 2007 202f"])

/-- The values of the word break under all their names. -/
def wordBreaks : List (List String × CharSet) :=
  [(["le", "aletter"], wordLetter), (["cr"], carriageReturn),
   (["dq", "doublequote"], .ofText ["22"]), (["extend"], wordExtending),
   (["ex", "extendnumlet"], wordJoiner), (["fo", "format"], wordFormat),
   (["hl", "hebrewletter"], hebrewLetter), (["ka", "katakana"], katakana), (["lf"], lineFeed),
   (["ml", "midletter"], midLetter), (["mn", "midnum"], midNumber),
   (["mb", "midnumlet"], midLetterOrNumber), (["nl", "newline"], otherNewline),
   (["nu", "numeric"], wordNumber), (["ri", "regionalindicator"], regionalIndicator),
   (["sq", "singlequote"], .ofText ["27"]), (["wsegspace"], wordBlank),
   (["zwj"], zeroWidthJoiner)]

/-- The characters with a value of the word break. -/
def wordBreak? (name : String) : Option CharSet := named? wordBreaks name

/-! ## Sentence breaks -/

/-- Full stops that need not end a sentence. -/
def openTerminator : CharSet := .ofText ["2e 2024 fe52 ff0e"]

/-- Brackets and quotation marks. -/
def closing : CharSet :=
  ((CharSet.unionAll
    [openPunctuation, closePunctuation, initialPunctuation, finalPunctuation,
     quotationMark]).difference (.ofText ["ff02 ff07"])).union
    (.ofText ["275b-2760 2e00-2e01 2e06-2e08 2e0b 1f676-1f678"])

/-- Marks that stay with the character before. -/
def sentenceExtending : CharSet := .unionAll [graphemeExtend, spacingMark, zeroWidthJoiner]

/-- Formats that a sentence passes over. -/
def sentenceFormat : CharSet :=
  (format.difference
    (.unionAll [zeroWidthJoiner, prependedConcatenationMark, graphemeExtend])).union
    (.ofText ["70f"])

/-- Small letters, apart from those of Georgian. -/
def sentenceLower : CharSet :=
  lowercase.difference (graphemeExtend.union (.ofText ["10d0-10fa 10fd-10ff"]))

/-- Capital letters, apart from those of Georgian. -/
def sentenceUpper : CharSet :=
  (uppercase.union titlecaseLetter).difference (.ofText ["1c90-1cba 1cbd-1cbf"])

/-- Digits and what goes with them. -/
def sentenceNumber : CharSet := wordNumber.union (.ofText ["66c"])

/-- Letters without case. -/
def caselessLetter : CharSet :=
  (alphabetic.difference
    (.unionAll [sentenceLower, sentenceUpper, sentenceExtending])).union (.ofText ["5f3"])

/-- Marks behind which a sentence goes on. -/
def continuation : CharSet := .ofText
  ["2c-2d 3a-3b 37e 55d 60c-60d 7f8 1802 1808 2013-2014 3001 fe10-fe11 fe13-fe14 fe31-fe32",
   "fe50-fe51 fe54-fe55 fe58 fe63 ff0c-ff0d ff1a-ff1b ff64"]

/-- Marks that end a sentence. -/
def terminator : CharSet := sentenceTerminal.difference openTerminator

/-- Blanks inside a line. -/
def sentenceBlank : CharSet := .ofText ["9 b-c 20 a0 1680 2000-200a 202f 205f 3000"]

/-- The values of the sentence break under all their names. -/
def sentenceBreaks : List (List String × CharSet) :=
  [(["at", "aterm"], openTerminator), (["cr"], carriageReturn), (["cl", "close"], closing),
   (["ex", "extend"], sentenceExtending), (["fo", "format"], sentenceFormat),
   (["lf"], lineFeed), (["lo", "lower"], sentenceLower), (["nu", "numeric"], sentenceNumber),
   (["le", "oletter"], caselessLetter), (["sc", "scontinue"], continuation),
   (["st", "sterm"], terminator), (["se", "sep"], .ofText ["85 2028-2029"]),
   (["sp"], sentenceBlank), (["up", "upper"], sentenceUpper)]

/-- The characters with a value of the sentence break. -/
def sentenceBreak? (name : String) : Option CharSet := named? sentenceBreaks name

end VersionedStore.Unicode
