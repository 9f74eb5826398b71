import TypeCatalog.Text.Script
import TypeCatalog.Text.Trait

/-!
# Where texts may be parted

Three properties of Unicode say what a character does to the ends of graphemes, words and sentences.
Each of them puts a character into one class at most; `grapheme`, `word` and `sentence` list the
classes, each by its two names and its code points.
-/

set_option autoImplicit false

namespace TypeCatalog.Text.BreakClass

open Category Trait

/-- The code points of a script. -/
def script (name : String) : CharSet :=
  ((Script.all.find? (·.name = name)).map (·.set)).getD .empty

/-! ## Graphemes -/

/-- What extends a grapheme. -/
def extend : CharSet := graphemeExtend.union emojiModifier

/-- What parts graphemes on both sides. -/
def graphemeControl : CharSet :=
  .diff
    (.unionAll
      [lineSeparator.set, paragraphSeparator.set, control.set, format.set,
       unassigned.set.inter defaultIgnorable])
    (.unionAll [.parse "A D 200C-200D", prependedConcatenationMark, extend])

/-- Spacing marks that belong to the character before them. -/
def graphemeSpacing : CharSet :=
  .diff (spacingMark.set.union (.parse "E33 EB3")) <|
    extend.union <| .parse
      "102B-102C 1038 1062-1064 1067-106D 1083 1087-108C 108F 109A-109C 1A61 1A63-1A64 AA7B AA7D
       11720-11721"

/-- Signs that belong to the character after them. -/
def prepend : CharSet :=
  .parse
    "600-605 6DD 70F 890-891 8E2 D4E 110BD 110CD 111C2-111C3 113D1 1193F 11941 11A3A 11A84-11A89
     11D46 11F02"

/-- Syllables of Hangul with no final consonant: the first of each run of twenty-eight. -/
def hangulOpen : CharSet := .parse "AC00-D788:1C"

/-- Classes of graphemes. -/
def grapheme : List (String × String × CharSet) :=
  [("CR", "CR", .parse "D"), ("LF", "LF", .parse "A"), ("CN", "Control", graphemeControl),
   ("EX", "Extend", extend), ("L", "L", .parse "1100-115F A960-A97C"),
   ("V", "V", .parse "1160-11A7 D7B0-D7C6 16D63 16D67-16D6A"),
   ("T", "T", .parse "11A8-11FF D7CB-D7FB"), ("LV", "LV", hangulOpen),
   ("LVT", "LVT", (CharSet.parse "AC00-D7A3").diff hangulOpen), ("PP", "Prepend", prepend),
   ("RI", "Regional_Indicator", regionalIndicator), ("SM", "SpacingMark", graphemeSpacing),
   ("ZWJ", "ZWJ", .parse "200D")]

/-! ## Words -/

/-- What is passed over inside words. -/
def wordExtend : CharSet :=
  (CharSet.unionAll [graphemeExtend, spacingMark.set, emojiModifier]).diff (.parse "200D")

/-- Format characters inside words. -/
def wordFormat : CharSet :=
  format.set.diff (.unionAll [.parse "200B-200D", wordExtend, prependedConcatenationMark])

/-- Katakana and what goes with it. -/
def wordKatakana : CharSet :=
  (script "Katakana").union (.parse "3031-3035 309B-309C 30A0 30FC FF70")

/-- Letters of Hebrew. -/
def hebrewLetter : CharSet := (script "Hebrew").inter otherLetter.set

/-- Letters of scripts that write no blanks between words. -/
def unspaced : CharSet :=
  .parse
    "E01-E3A E40-E4E E81-E82 E84 E86-E8A E8C-EA3 EA5 EA7-EBD EC0-EC4 EC6 EC8-ECE EDC-EDF 1000-103F
     1050-108F 109A-109F 1780-17D3 17D7 17DC-17DD 1950-196D 1970-1974 1980-19AB 19B0-19C9 19DA
     19DE-19DF 1A20-1A5E 1A60-1A7C 1AA0-1AAD A9E0-A9EF A9FA-A9FE AA60-AAC2 AADB-AADF 11700-1171A
     1171D-1172B 1173A-1173B 1173F-11746"

/-- Letters of which words are made. -/
def wordLetter : CharSet :=
  .diff
    (alphabetic.union <| .parse
      "2C2-2C5 2D2-2D7 2DE-2DF 2E5-2EB 2ED 2EF-2FF 55A-55C 55E 58A 5F3 70F A708-A716 A720-A721
       A789-A78A AB5B")
    (.unionAll
      [ideographic, wordKatakana, unspaced, script "Hiragana", wordExtend, hebrewLetter])

/-- Digits and signs around digits. -/
def numeric : CharSet :=
  .union decimalNumber.set
    ((CharSet.parse "66B").union (prependedConcatenationMark.diff (.parse "70F")))

/-- Classes of words. -/
def word : List (String × String × CharSet) :=
  [("CR", "CR", .parse "D"), ("LF", "LF", .parse "A"), ("NL", "Newline", .parse "B-C 85 2028-2029"),
   ("LE", "ALetter", wordLetter), ("HL", "Hebrew_Letter", hebrewLetter),
   ("KA", "Katakana", wordKatakana), ("NU", "Numeric", numeric), ("FO", "Format", wordFormat),
   ("Extend", "Extend", wordExtend), ("EX", "ExtendNumLet",
    .parse "5F 202F 203F-2040 2054 FE33-FE34 FE4D-FE4F FF3F"),
   ("ML", "MidLetter", .parse "3A B7 387 55F 5F4 2027 FE13 FE55 FF1A"),
   ("MN", "MidNum",
    .parse "2C 3B 37E 589 60C-60D 66C 7F8 2044 FE10 FE14 FE50 FE54 FF0C FF1B"),
   ("MB", "MidNumLet", .parse "2E 2018-2019 2024 FE52 FF07 FF0E"),
   ("SQ", "Single_Quote", .parse "27"), ("DQ", "Double_Quote", .parse "22"),
   ("RI", "Regional_Indicator", regionalIndicator),
   ("WSegSpace", "WSegSpace", .parse "20 1680 2000-2006 2008-200A 205F 3000"),
   ("ZWJ", "ZWJ", .parse "200D")]

/-! ## Sentences -/

/-- What is passed over inside sentences. -/
def sentenceExtend : CharSet := .unionAll [graphemeExtend, spacingMark.set, .parse "200D"]

/-- Letters of Georgian, which have capitals only for titles. -/
def titledLetters : CharSet := .parse "10D0-10FA 10FD-10FF 1C90-1CBA 1CBD-1CBF"

def sentenceLower : CharSet := lowercase.diff (graphemeExtend.union titledLetters)

def sentenceUpper : CharSet := (uppercase.union titleCaseLetter.set).diff titledLetters

/-- Full stops, which may also end an abbreviation. -/
def fullStop : CharSet := .parse "2E 2024 FE52 FF0E"

/-- Other signs at the end of a sentence. -/
def sentenceEnd : CharSet := sentenceTerminal.diff fullStop

/-- Brackets and quotes, which may follow the end of a sentence. -/
def sentenceClose : CharSet :=
  .diff
    (.unionAll
      [openPunctuation.set, closePunctuation.set, initialPunctuation.set, finalPunctuation.set,
       .parse "22 27 275B-2760 2E00-2E01 2E06-2E08 2E0B 1F676-1F678"])
    (.unionAll [.parse "5F3", fullStop, sentenceEnd])

/-- Letters of scripts that do not tell capitals from small letters. -/
def sentenceLetter : CharSet :=
  (alphabetic.union (.parse "5F3")).diff
    (.unionAll [sentenceLower, sentenceUpper, sentenceExtend])

def sentenceNumeric : CharSet := numeric.union (.parse "66C")

/-- Classes of sentences. -/
def sentence : List (String × String × CharSet) :=
  [("CR", "CR", .parse "D"), ("LF", "LF", .parse "A"), ("SE", "Sep", .parse "85 2028-2029"),
   ("SP", "Sp", .parse "9 B-C 20 A0 1680 2000-200A 202F 205F 3000"),
   ("AT", "ATerm", fullStop), ("ST", "STerm", sentenceEnd), ("CL", "Close", sentenceClose),
   ("LO", "Lower", sentenceLower), ("UP", "Upper", sentenceUpper),
   ("LE", "OLetter", sentenceLetter),
   ("NU", "Numeric", sentenceNumeric), ("EX", "Extend", sentenceExtend),
   ("FO", "Format", format.set.diff (sentenceExtend.union sentenceNumeric)),
   ("SC", "SContinue",
    .parse
     "2C-2D 3A-3B 37E 55D 60C-60D 7F8 1802 1808 2013-2014 3001 FE10-FE11 FE13-FE14 FE31-FE32
      FE50-FE51 FE54-FE55 FE58 FE63 FF0C-FF0D FF1A-FF1B FF64")]

end TypeCatalog.Text.BreakClass
