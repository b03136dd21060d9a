import DependencyRules.Unicode.Property
import DependencyRules.Unicode.Script

/-!
# Segmentation

The classes of characters that decide where a text is divided into user-perceived characters, words
and sentences. Most classes are derived from other properties.
-/

namespace DependencyRules

namespace Unicode

def ofScripts (names : List String) : CharSet :=
  CharSet.unions ((scripts.filter fun script => script.names.any names.contains).map
    ScriptTable.set)

def ofCodes (table : String) : CharSet := CharSet.ofTable [table]

/-- The syllables of Hangul without a final consonant. -/
def openSyllable : CharSet :=
  ⟨(List.range 399).map fun k => (0xAC00 + 28 * k, 0xAC00 + 28 * k)⟩

/-- The syllables of Hangul with a final consonant. -/
def closedSyllable : CharSet := (ofCodes "AC00-D7A3").difference openSyllable

/-- Characters that continue a user-perceived character. -/
def clusterExtend : CharSet := (graphemeExtend.union emojiModifier).difference (ofCodes "200D")

/-- Marks that do not count as spacing marks in a user-perceived character. -/
def separateMark : CharSet := CharSet.ofTable
  ["102B-102C 1038 1062-1064 1067-106D 1083 1087-108C 108F 109A-109C 1A61 1A63-1A64 AA7B AA7D",
   "11720-11721"]

/-- The classes of user-perceived characters. -/
def clusterBreaks : List (List String × CharSet) :=
  [(["control", "cn"],
      (CharSet.unions [lineSeparator, paragraphSeparator, control, format,
        unassigned.inter defaultIgnorable]).difference
        (CharSet.unions
          [ofCodes "A D 200C-200D", prependedConcatenationMark, clusterExtend])),
    (["cr"], ofCodes "D"),
    (["extend", "ex"], clusterExtend),
    (["l"], ofCodes "1100-115F A960-A97C"),
    (["lf"], ofCodes "A"),
    (["lv"], openSyllable),
    (["lvt"], closedSyllable),
    (["prepend", "pp"],
      prependedConcatenationMark.union
        (ofCodes "D4E 111C2-111C3 113D1 1193F 11941 11A3A 11A84-11A89 11D46 11F02")),
    (["regionalindicator", "ri"], regionalIndicator),
    (["spacingmark", "sm"],
      (spacingMark.union (ofCodes "E33 EB3")).difference (clusterExtend.union separateMark)),
    (["t"], ofCodes "11A8-11FF D7CB-D7FB"),
    (["v"], ofCodes "1160-11A7 D7B0-D7C6 16D63 16D67-16D6A"),
    (["zwj"], ofCodes "200D")]

def wordExtend : CharSet :=
  (CharSet.unions [graphemeExtend, spacingMark, emojiModifier]).difference (ofCodes "200D")

def wordKatakana : CharSet :=
  (ofScripts ["katakana"]).union (ofCodes "3031-3035 309B-309C 30A0 30FC FF70")

def hebrewLetter : CharSet := (ofScripts ["hebrew"]).inter otherLetter

/-- Characters of scripts that do not divide words by spaces. -/
def undividedScript : CharSet :=
  (ofScripts ["thai", "lao", "myanmar", "khmer", "taile", "newtailue", "taitham", "taiviet",
      "ahom"]).inter
    (CharSet.unions [alphabetic, nonspacingMark, spacingMark])

/-- Signs that count as letters of a word. -/
def wordSign : CharSet := CharSet.ofTable
  ["2C2-2C5 2D2-2D7 2DE-2DF 2E5-2EB 2ED 2EF-2FF 55A-55C 55E 58A 5F3 70F A708-A716 A720-A721",
   "A789-A78A AB5B"]

/-- Digits, and the signs that stand before a number or count as a digit. -/
def numeral : CharSet :=
  decimalNumber.union (ofCodes "600-605 66B 6DD 890-891 8E2 19DA 110BD 110CD")

def wordBreaks : List (List String × CharSet) :=
  [(["aletter", "le"],
      (alphabetic.union wordSign).difference
        (CharSet.unions [ideographic, wordKatakana, undividedScript, ofScripts ["hiragana"],
          wordExtend, hebrewLetter])),
    (["cr"], ofCodes "D"),
    (["doublequote", "dq"], ofCodes "22"),
    (["extend"], wordExtend),
    (["extendnumlet", "ex"], connectorPunctuation.union (ofCodes "202F")),
    (["format", "fo"],
      format.difference
        (CharSet.unions [wordExtend, prependedConcatenationMark, ofCodes "200B-200D"])),
    (["hebrewletter", "hl"], hebrewLetter),
    (["katakana", "ka"], wordKatakana),
    (["lf"], ofCodes "A"),
    (["midletter", "ml"], ofCodes "3A B7 387 55F 5F4 2027 FE13 FE55 FF1A"),
    (["midnum", "mn"],
      ofCodes "2C 3B 37E 589 60C-60D 66C 7F8 2044 FE10 FE14 FE50 FE54 FF0C FF1B"),
    (["midnumlet", "mb"], ofCodes "2E 2018-2019 2024 FE52 FF07 FF0E"),
    (["newline", "nl"], ofCodes "B-C 85 2028-2029"),
    (["numeric", "nu"], numeral),
    (["regionalindicator", "ri"], regionalIndicator),
    (["singlequote", "sq"], ofCodes "27"),
    (["wsegspace"], spaceSeparator.difference (ofCodes "A0 2007 202F")),
    (["zwj"], ofCodes "200D")]

def sentenceExtend : CharSet := CharSet.unions [graphemeExtend, spacingMark, ofCodes "200D"]

def sentenceLower : CharSet :=
  lowercase.difference (graphemeExtend.union (ofCodes "10D0-10FA 10FD-10FF"))

def sentenceUpper : CharSet :=
  (titlecaseLetter.union uppercase).difference (ofCodes "1C90-1CBA 1CBD-1CBF")

/-- Points that may end a sentence. -/
def sentencePoint : CharSet := ofCodes "2E 2024 FE52 FF0E"

def sentenceBreaks : List (List String × CharSet) :=
  [(["aterm", "at"], sentencePoint),
    (["close", "cl"],
      (CharSet.unions [openPunctuation, closePunctuation, initialPunctuation, finalPunctuation,
        ofCodes "22 27 275B-2760 2E00-2E01 2E06-2E08 2E0B 1F676-1F678"]).difference
        (CharSet.unions [ofCodes "5F3", sentencePoint, sentenceTerminal])),
    (["cr"], ofCodes "D"),
    (["extend", "ex"], sentenceExtend),
    (["format", "fo"],
      format.difference (CharSet.unions [sentenceExtend, numeral, ofCodes "200C-200D"])),
    (["lf"], ofCodes "A"),
    (["lower", "lo"], sentenceLower),
    (["numeric", "nu"], numeral.union (ofCodes "66C")),
    (["oletter", "le"],
      (alphabetic.union (ofCodes "5F3")).difference
        (CharSet.unions [sentenceLower, sentenceUpper, sentenceExtend])),
    (["scontinue", "sc"],
      CharSet.ofTable
        ["2C-2D 3A-3B 37E 55D 60C-60D 7F8 1802 1808 2013-2014 3001 FE10-FE11 FE13-FE14 FE31-FE32",
         "FE50-FE51 FE54-FE55 FE58 FE63 FF0C-FF0D FF1A-FF1B FF64"]),
    (["sep", "se"], ofCodes "85 2028-2029"),
    (["sp"], whiteSpace.difference (ofCodes "A D 85 2028-2029")),
    (["sterm", "st"], sentenceTerminal.difference sentencePoint),
    (["upper", "up"], sentenceUpper)]

end Unicode

end DependencyRules
