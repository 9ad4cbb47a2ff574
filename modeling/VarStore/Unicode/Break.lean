import VarStore.Unicode.PropertyClass

/-!
# Break classes

To find where a text may be broken into graphemes, words and sentences, the standard sorts
characters into classes, once for each of the three.  A class is given by a rule over the other
properties, with a few code points added or left out, and the rules are what is written here: a
table would hide why a character is in its class.

A character has at most one class of each kind.  That is why many rules end in a difference: what
an earlier rule takes is taken out of a later one.

Names are kept as loose matching leaves them.
-/

namespace VarStore
namespace Unicode

open Category

/-! ## What the rules share -/

/-- The zero width joiner. -/
def joiner : CharClass := .single '\u200d'

/-- The class of a table of code points. -/
def tableClass (table : String) : CharClass := .ranges (Ranges.ofText table)

/-- The characters that extend what stands before them, skin tones included. -/
def extenders : CharClass :=
  .union BinaryProperty.graphemeExtend.charClass BinaryProperty.emojiModifier.charClass

/-- The characters that are read as digits of a number: decimal digits and two separators. -/
def numericText : CharClass := .union (classOf [decimalNumber]) (tableClass "66B-66C")

/-- The format characters in front of numbers.  The Syriac abbreviation mark, which stands in
front of letters, is the only other one of its kind. -/
def numberMarks : CharClass :=
  .diff BinaryProperty.prependedConcatenationMark.charClass (tableClass "70F")

/-! ## Graphemes -/

/-- How a character takes part in graphemes. -/
inductive GraphemeBreak where
  | carriageReturn | lineFeed | control | extend | joiner | regionalIndicator | prepended
  | spacingMark
  /-- A leading consonant of a Hangul syllable. -/
  | leading
  /-- A vowel of a syllable that is written in parts. -/
  | vowel
  /-- A trailing consonant of a Hangul syllable. -/
  | trailing
  /-- A whole Hangul syllable that ends in its vowel. -/
  | openSyllable
  /-- A whole Hangul syllable with a trailing consonant. -/
  | closedSyllable
  deriving DecidableEq

namespace GraphemeBreak

/-- The characters in front of a grapheme. -/
def prependedClass : CharClass :=
  .union BinaryProperty.prependedConcatenationMark.charClass
    (tableClass "D4E 111C2-111C3 113D1 1193F 11941 11A3A 11A84-11A89 11D46 11F02")

/-- The characters of a class. -/
def charClass : GraphemeBreak → CharClass
  | carriageReturn => .single '\r'
  | lineFeed => .single '\n'
  | control =>
    .diff
      (.union (classOf [lineSeparator, paragraphSeparator, Category.control, format])
        (.inter unassigned BinaryProperty.defaultIgnorableCodePoint.charClass))
      (.union (tableClass "A D 200C 200D")
        (.union BinaryProperty.prependedConcatenationMark.charClass extenders))
  | extend => extenders
  | joiner => Unicode.joiner
  | regionalIndicator => BinaryProperty.regionalIndicator.charClass
  | prepended => prependedClass
  | spacingMark =>
    .diff (.union (classOf [Category.spacingMark]) (tableClass "E33 EB3"))
      (.union extenders
        (tableClass "102B-102C 1038 1062-1064 1067-106D 1083 1087-108C 108F 109A-109C 1A61
          1A63-1A64 AA7B AA7D 11720-11721"))
  | leading => tableClass "1100-115F A960-A97C"
  | vowel => tableClass "1160-11A7 D7B0-D7C6 16D63 16D67-16D6A"
  | trailing => tableClass "11A8-11FF D7CB-D7FB"
  | openSyllable => .ranges ((List.range 399).map fun k => (0xAC00 + 28 * k, 0xAC00 + 28 * k))
  | closedSyllable => .ranges ((List.range 399).map fun k => (0xAC01 + 28 * k, 0xAC1B + 28 * k))

/-- Look up a loosely matched name. -/
def named? (name : String) : Option GraphemeBreak :=
  match name with
  | "cr" => some carriageReturn
  | "lf" => some lineFeed
  | "control" | "cn" => some control
  | "extend" | "ex" => some extend
  | "zwj" => some joiner
  | "regionalindicator" | "ri" => some regionalIndicator
  | "prepend" | "pp" => some prepended
  | "spacingmark" | "sm" => some spacingMark
  | "l" => some leading
  | "v" => some vowel
  | "t" => some trailing
  | "lv" => some openSyllable
  | "lvt" => some closedSyllable
  | _ => none

end GraphemeBreak

/-! ## Words -/

/-- How a character takes part in words. -/
inductive WordBreak where
  | carriageReturn | lineFeed | newline | extend | joiner | regionalIndicator | format | katakana
  | hebrewLetter | letter | singleQuote | doubleQuote
  /-- Between two letters a part of the word. -/
  | midLetter
  /-- Between two digits a part of the number. -/
  | midNumber
  /-- Both of that. -/
  | midLetterOrNumber
  | numeric
  /-- Joins letters, digits and katakana, as the low line does. -/
  | connector
  | space
  deriving DecidableEq

namespace WordBreak

/-- Katakana and what is written among it. -/
def katakanaClass : CharClass :=
  .union (Script.classNamed "katakana") (tableClass "3031-3035 309B-309C 30A0 30FC FF70")

/-- The letters of the Hebrew script. -/
def hebrewLetterClass : CharClass :=
  .inter (Script.classNamed "hebrew") (classOf [otherLetter])

/-- The characters that extend a word. -/
def extendClass : CharClass := .diff (.union extenders (classOf [spacingMark])) Unicode.joiner

/-- The characters that letters are chosen from: alphabetic ones, and signs that stand in words. -/
def letterLike : CharClass :=
  .union BinaryProperty.alphabetic.charClass
    (tableClass "B8 2C2-2C5 2D2-2D7 2DE-2DF 2E5-2EB 2ED 2EF-2FF 55A-55C 55E 58A 5F3 70F
      A708-A716 A720-A721 A789-A78A AB5B")

/-- The letters of scripts that are written without blanks between words. -/
def unspacedLetters : CharClass :=
  tableClass "E01-E30 E32-E33 E40-E46 E81-E82 E84 E86-E8A E8C-EA3 EA5 EA7-EB0 EB2-EB3 EBD
    EC0-EC4 EC6 EDC-EDF 1000-102A 103F 1050-1055 105A-105D 1061 1065-1066 106E-1070 1075-1081
    108E 1780-17B3 17D7 17DC 1950-196D 1970-1974 1980-19AB 19B0-19C9 1A20-1A54 1AA7 A9E0-A9E4
    A9E6-A9EF A9FA-A9FE AA60-AA76 AA7A AA7E-AAAF AAB1 AAB5-AAB6 AAB9-AABD AAC0 AAC2 AADB-AADD
    11700-1171A 11740-11746"

/-- The characters of a class. -/
def charClass : WordBreak → CharClass
  | carriageReturn => .single '\r'
  | lineFeed => .single '\n'
  | newline => tableClass "B-C 85 2028-2029"
  | extend => extendClass
  | joiner => Unicode.joiner
  | regionalIndicator => BinaryProperty.regionalIndicator.charClass
  | format =>
    .diff (classOf [Category.format])
      (.union (tableClass "200B-200D")
        (.union BinaryProperty.prependedConcatenationMark.charClass extendClass))
  | katakana => katakanaClass
  | hebrewLetter => hebrewLetterClass
  | letter =>
    .diff letterLike
      (.union (.union BinaryProperty.ideographic.charClass katakanaClass)
        (.union (.union unspacedLetters (Script.classNamed "hiragana"))
          (.union extendClass hebrewLetterClass)))
  | singleQuote => .single '\''
  | doubleQuote => .single '"'
  | midLetter => tableClass "3A B7 387 55F 5F4 2027 FE13 FE55 FF1A"
  | midNumber => tableClass "2C 3B 37E 589 60C-60D 66C 7F8 2044 FE10 FE14 FE50 FE54 FF0C FF1B"
  | midLetterOrNumber => tableClass "2E 2018-2019 2024 FE52 FF07 FF0E"
  | numeric => .diff (.union numericText numberMarks) (tableClass "66C")
  | connector => .union (classOf [connectorPunctuation]) (tableClass "202F")
  | space => .diff (classOf [spaceSeparator]) (tableClass "A0 2007 202F")

/-- Look up a loosely matched name. -/
def named? (name : String) : Option WordBreak :=
  match name with
  | "cr" => some carriageReturn
  | "lf" => some lineFeed
  | "newline" | "nl" => some newline
  | "extend" => some extend
  | "zwj" => some joiner
  | "regionalindicator" | "ri" => some regionalIndicator
  | "format" | "fo" => some format
  | "katakana" | "ka" => some katakana
  | "hebrewletter" | "hl" => some hebrewLetter
  | "aletter" | "le" => some letter
  | "singlequote" | "sq" => some singleQuote
  | "doublequote" | "dq" => some doubleQuote
  | "midletter" | "ml" => some midLetter
  | "midnum" | "mn" => some midNumber
  | "midnumlet" | "mb" => some midLetterOrNumber
  | "numeric" | "nu" => some numeric
  | "extendnumlet" | "ex" => some connector
  | "wsegspace" => some space
  | _ => none

end WordBreak

/-! ## Sentences -/

/-- How a character takes part in sentences. -/
inductive SentenceBreak where
  | carriageReturn | lineFeed | separator | extend | format | space | lower | upper | otherLetter
  | numeric
  /-- A full stop, which may also stand in an abbreviation or a number. -/
  | fullStop
  /-- Says that the sentence goes on. -/
  | continuation
  /-- Ends a sentence for sure. -/
  | terminator
  /-- Closes, or may close, what a sentence encloses. -/
  | close
  deriving DecidableEq

namespace SentenceBreak

/-- The characters that extend what stands before them. -/
def extendClass : CharClass :=
  .union BinaryProperty.graphemeExtend.charClass (.union Unicode.joiner (classOf [spacingMark]))

/-- The separators of lines and paragraphs, the two of ASCII apart. -/
def separatorClass : CharClass := tableClass "85 2028-2029"

/-- Lower case, apart from marks and from the letters of a script that has no case in prose. -/
def lowerClass : CharClass :=
  .diff BinaryProperty.lowercase.charClass
    (.union BinaryProperty.graphemeExtend.charClass (tableClass "10D0-10FA 10FD-10FF"))

/-- Upper and title case, apart from the capitals of that script. -/
def upperClass : CharClass :=
  .diff (.union BinaryProperty.uppercase.charClass (classOf [titlecaseLetter]))
    (tableClass "1C90-1CBA 1CBD-1CBF")

/-- The signs that number marks and digits make. -/
def numericClass : CharClass := .union numericText numberMarks

/-- The full stops. -/
def fullStopClass : CharClass := tableClass "2E 2024 FE52 FF0E"

/-- The characters of a class. -/
def charClass : SentenceBreak → CharClass
  | carriageReturn => .single '\r'
  | lineFeed => .single '\n'
  | separator => separatorClass
  | extend => extendClass
  | format => .diff (classOf [Category.format]) (.union extendClass numericClass)
  | space =>
    .diff BinaryProperty.whiteSpace.charClass (.union separatorClass (tableClass "A D"))
  | lower => lowerClass
  | upper => upperClass
  | otherLetter =>
    .diff (.union BinaryProperty.alphabetic.charClass (tableClass "5F3"))
      (.union (.union lowerClass upperClass) extendClass)
  | numeric => numericClass
  | fullStop => fullStopClass
  | continuation =>
    tableClass "2C-2D 3A-3B 37E 55D 60C-60D 7F8 1802 1808 2013-2014 3001 FE10-FE11 FE13-FE14
      FE31-FE32 FE50-FE51 FE54-FE55 FE58 FE63 FF0C-FF0D FF1A-FF1B FF64"
  | terminator => .diff BinaryProperty.sentenceTerminal.charClass fullStopClass
  | close =>
    .union
      (classOf [openPunctuation, closePunctuation, initialPunctuation, finalPunctuation])
      (tableClass "22 27 275B-2760 2E00-2E01 2E06-2E08 2E0B 1F676-1F678")

/-- Look up a loosely matched name. -/
def named? (name : String) : Option SentenceBreak :=
  match name with
  | "cr" => some carriageReturn
  | "lf" => some lineFeed
  | "sep" | "se" => some separator
  | "extend" | "ex" => some extend
  | "format" | "fo" => some format
  | "sp" => some space
  | "lower" | "lo" => some lower
  | "upper" | "up" => some upper
  | "oletter" | "le" => some otherLetter
  | "numeric" | "nu" => some numeric
  | "aterm" | "at" => some fullStop
  | "scontinue" | "sc" => some continuation
  | "sterm" | "st" => some terminator
  | "close" | "cl" => some close
  | _ => none

end SentenceBreak

end Unicode
end VarStore
