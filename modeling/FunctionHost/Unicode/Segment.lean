import FunctionHost.Unicode.Property
import FunctionHost.Unicode.Script
/-!
# Segmentation

The classes by which text is cut into graphemes, words and sentences. They are put together from
categories, properties and scripts as Unicode's annex on segmentation says, with the exceptions
listed there. `graphemeBreak?`, `wordBreak?` and `sentenceBreak?` find a class by its name.
-/

namespace FunctionHost.Unicode

namespace Segment

open Category Property

/-- A set written in one row. -/
def row (s : String) : Ranges := .ofRows [s]

/-- A script or nothing. -/
def script (name : String) : Ranges := (script? name).getD .empty

/-- The zero-width joiner. -/
def joiner : Ranges := row "200D"

/-- Extensions of graphemes and skin tones. -/
def graphemeExtension : Ranges := (graphemeExtend.union emojiModifier).diff joiner

/-- Spacing marks that do not extend a grapheme. -/
def looseMark : Ranges := row ("102B-102C 1038 1062-1064 1067-106D 1083 1087-108C 108F " ++
  "109A-109C 1A61 1A63-1A64 AA7B AA7D 11720-11721")

/-- Letters that go with the grapheme after them. -/
def prepended : Ranges := prependedConcatenationMark.union
  (row "D4E 111C2-111C3 113D1 1193F 11941 11A3A 11A84-11A89 11D46 11F02")

/-- Hangul syllables without a final consonant. -/
def openSyllable : Ranges := row "AC00-D788/1C"

/-- The grapheme classes. -/
def graphemeClasses : List (List String × Ranges) := [
  (["cr"], row "D"),
  (["lf"], row "A"),
  (["control", "cn"], (Ranges.unions [lineSeparator, paragraphSeparator, control, format,
    unassigned.inter defaultIgnorable]).diff
      (.unions [row "A D 200C-200D", prependedConcatenationMark, graphemeExtend])),
  (["extend", "ex"], graphemeExtension),
  (["zwj"], joiner),
  (["regionalindicator", "ri"], regionalIndicator),
  (["prepend", "pp"], prepended),
  (["spacingmark", "sm"],
    (spacingMark.union (row "E33 EB3")).diff (graphemeExtend.union looseMark)),
  (["l"], row "1100-115F A960-A97C"),
  (["v"], row "1160-11A7 D7B0-D7C6 16D63 16D67-16D6A"),
  (["t"], row "11A8-11FF D7CB-D7FB"),
  (["lv"], openSyllable),
  (["lvt"], (row "AC00-D7A3").diff openSyllable)]

/-- Marks inside words and sentences. -/
def innerMark : Ranges := (Ranges.unions [graphemeExtend, spacingMark, emojiModifier]).diff joiner

/-- Signs written around numbers, and a digit that stands for no decimal one: they count as
numbers. -/
def numberSign : Ranges := row "600-605 6DD 890-891 8E2 19DA 110BD 110CD"

/-- The sign of a Syriac abbreviation. -/
def abbreviationMark : Ranges := .single 0x70F

/-- Format characters inside words and sentences. -/
def innerFormat : Ranges := format.diff (.unions [row "200B-200D", innerMark, numberSign])

/-- Katakana and what goes with it. -/
def katakana : Ranges := (script "katakana").union (row "3031-3035 309B-309C 30A0 30FC FF70")

/-- Letters of Hebrew. -/
def hebrewLetter : Ranges := (script "hebrew").inter otherLetter

/-- Numbers in words. -/
def wordNumber : Ranges := .unions [decimalNumber, numberSign, row "66B"]

/-- Scripts written without blanks between words. -/
def unspaced : Ranges := .unions (["hiragana", "thai", "lao", "khmer", "myanmar", "taile",
  "newtailue", "taitham", "taiviet", "ahom"].map script)

/-- Letters of words. -/
def wordLetter : Ranges :=
  (alphabetic.diff (.unions [ideographic, katakana, hebrewLetter, innerMark, wordNumber,
    unspaced])).union (abbreviationMark.union
    (row ("2C2-2C5 2D2-2D7 2DE-2DF 2E5-2EB 2ED 2EF-2FF 55A-55C 55E 58A 5F3 A708-A716 A720-A721 " ++
      "A789-A78A AB5B")))

/-- The word classes. -/
def wordClasses : List (List String × Ranges) := [
  (["cr"], row "D"),
  (["lf"], row "A"),
  (["newline", "nl"], row "B-C 85 2028-2029"),
  (["extend"], innerMark),
  (["zwj"], joiner),
  (["regionalindicator", "ri"], regionalIndicator),
  (["format", "fo"], innerFormat.diff abbreviationMark),
  (["katakana", "ka"], katakana),
  (["hebrewletter", "hl"], hebrewLetter),
  (["aletter", "le"], wordLetter),
  (["singlequote", "sq"], row "27"),
  (["doublequote", "dq"], row "22"),
  (["midnumlet", "mb"], row "2E 2018-2019 2024 FE52 FF07 FF0E"),
  (["midletter", "ml"], row "3A B7 387 55F 5F4 2027 FE13 FE55 FF1A"),
  (["midnum", "mn"], row "2C 3B 37E 589 60C-60D 66C 7F8 2044 FE10 FE14 FE50 FE54 FF0C FF1B"),
  (["numeric", "nu"], wordNumber),
  (["extendnumlet", "ex"], row "5F 202F 203F-2040 2054 FE33-FE34 FE4D-FE4F FF3F"),
  (["wsegspace"], row "20 1680 2000-2006 2008-200A 205F 3000")]

/-- Breaks between paragraphs. -/
def paragraphBreak : Ranges := row "A D 85 2028-2029"

/-- Full stops that may end a sentence. -/
def fullStop : Ranges := row "2E 2024 FE52 FF0E"

/-- Letters of the Georgian alphabet that takes part in no sentence case. -/
def georgian : Ranges := row "10D0-10FA 10FD-10FF 1C90-1CBA 1CBD-1CBF"

/-- Small letters in sentences. -/
def sentenceLower : Ranges := (lowercase.diff graphemeExtend).diff georgian

/-- Capital letters in sentences. -/
def sentenceUpper : Ranges := (titlecaseLetter.union uppercase).diff georgian

/-- The sentence classes. -/
def sentenceClasses : List (List String × Ranges) := [
  (["cr"], row "D"),
  (["lf"], row "A"),
  (["sep", "se"], row "85 2028-2029"),
  (["extend", "ex"], (innerMark.diff emojiModifier).union joiner),
  (["format", "fo"], innerFormat.union (row "200B")),
  (["sp"], whiteSpace.diff paragraphBreak),
  (["lower", "lo"], sentenceLower),
  (["upper", "up"], sentenceUpper),
  (["oletter", "le"], (alphabetic.union (row "5F3")).diff
    (.unions [sentenceLower, sentenceUpper, innerMark])),
  (["numeric", "nu"], .unions [decimalNumber, numberSign, row "66B-66C"]),
  (["aterm", "at"], fullStop),
  (["scontinue", "sc"], row ("2C-2D 3A 55D 60C-60D 7F8 1802 1808 2013-2014 3001 FE10-FE11 FE13 " ++
    "FE31-FE32 FE50-FE51 FE55 FE58 FE63 FF0C-FF0D FF1A FF64")),
  (["sterm", "st"], sentenceTerminal.diff fullStop),
  (["close", "cl"], .unions [openPunctuation, closePunctuation, initialPunctuation,
    finalPunctuation, row "22 27 275B-2760 2E00-2E01 2E06-2E08 2E0B 1F676-1F678"])]

end Segment

/-- The grapheme class with a name, written plainly. -/
def graphemeBreak? (name : String) : Option Ranges := named? name Segment.graphemeClasses

/-- The word class with a name, written plainly. -/
def wordBreak? (name : String) : Option Ranges := named? name Segment.wordClasses

/-- The sentence class with a name, written plainly. -/
def sentenceBreak? (name : String) : Option Ranges := named? name Segment.sentenceClasses

end FunctionHost.Unicode
