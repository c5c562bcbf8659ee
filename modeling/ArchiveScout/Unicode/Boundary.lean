import ArchiveScout.Unicode.Derived
import ArchiveScout.Unicode.Script

/-!
# ArchiveScout.Unicode.Boundary

**Classes of characters for cutting text** into units that a reader takes for one
character, into words, and into sentences. For each of the three there is a table of
classes by their names in loose form. Characters in no class of a table are ordinary
for its purpose.
-/

namespace ArchiveScout.Unicode

/-- The characters of a script with a name in loose form. -/
def ofScript (name : String) : CharSet :=
  ((scripts.find? (·.names.contains name)).map Script.characters).getD .empty

/-- The carriage return. -/
def carriageReturn : CharSet := .ofText "D"

/-- The joiner of pictures and letters. -/
def zeroWidthJoiner : CharSet := .ofText "200D"

/-- Syllables of Korean. -/
def koreanSyllable : CharSet := .ofText "AC00-D7A3"

/-- Syllables of Korean without a last consonant: the first of each 28. -/
def openKoreanSyllable : CharSet :=
  .ranges ((List.range 399).map fun i => (0xAC00 + 28 * i, 0xAC00 + 28 * i))

/-- Formats that are neither joined nor ignored at an edge of a word. -/
def visibleFormat : CharSet :=
  .ofText "600-605 6DD 890-891 8E2 200C-200D 110BD 110CD E0020-E007F"

/-- Characters between which an edge of a unit always lies. -/
def graphemeControl : CharSet :=
  .diff
    (.unionOf [control, format, lineSeparator, paragraphSeparator,
      .ofText "2065 FFF0-FFF8 E0000 E0002-E001F E0080-E00FF E01F0-E0FFF"])
    (.unionOf [visibleFormat, prependedConcatenationMark, .ofText "A D"])

/-- Marks of their own width that belong to the unit in front of them. -/
def graphemeSpacingMark : CharSet :=
  .diff (.union spacingMark (.ofText "E33 EB3"))
    (.union graphemeExtend (.ofText "
102B-102C 1038 1062-1064 1067-106D 1083 1087-108C 108F 109A-109C 1A61 1A63-1A64 AA7B
AA7D 11720-11721"))

/-- The classes for units that a reader takes for one character. -/
def graphemeClasses : List (List String × CharSet) :=
  [(["cr"], carriageReturn),
    (["lf"], .lineFeed),
    (["cn", "control"], graphemeControl),
    (["ex", "extend"], .union graphemeExtend emojiModifier),
    (["pp", "prepend"],
      .union prependedConcatenationMark
        (.ofText "D4E 111C2-111C3 113D1 1193F 11941 11A3A 11A84-11A89 11D46 11F02")),
    (["sm", "spacingmark"], graphemeSpacingMark),
    (["l"], .ofText "1100-115F A960-A97C"),
    (["v"], .ofText "1160-11A7 D7B0-D7C6 16D63 16D67-16D6A"),
    (["t"], .ofText "11A8-11FF D7CB-D7FB"),
    (["lv"], openKoreanSyllable),
    (["lvt"], .diff koreanSyllable openKoreanSyllable),
    (["ri", "regionalindicator"], regionalIndicator),
    (["zwj"], zeroWidthJoiner)]

/-- Characters that belong to the one in front of them inside a word. -/
def wordExtend : CharSet := .unionOf [graphemeExtend, spacingMark, emojiModifier]

/-- Katakana and the marks that are written with it. -/
def wordKatakana : CharSet :=
  .union (ofScript "katakana") (.ofText "3031-3035 309B-309C 30A0 30FC FF70")

/-- Letters of Hebrew. -/
def hebrewLetter : CharSet := .inter (ofScript "hebrew") otherLetter

/-- Letters of scripts that are written without blanks between words. -/
def unspacedLetter : CharSet :=
  .unionOf [ideographic, wordKatakana, ofScript "hiragana", ofScript "thai", ofScript "lao",
    ofScript "myanmar", ofScript "khmer", ofScript "taile", ofScript "newtailue",
    ofScript "taitham", ofScript "taiviet", ofScript "ahom"]

/-- Letters of words. -/
def wordLetter : CharSet :=
  .union
    (.diff alphabetic (.unionOf [unspacedLetter, wordExtend, hebrewLetter]))
    (.ofText "
2C2-2C5 2D2-2D7 2DE-2DF 2E5-2EB 2ED 2EF-2FF 55A-55C 55E 58A 5F3 70F A708-A716 A720-A721
A789-A78A AB5B")

/-- Digits, and signs that belong to numbers. -/
def wordNumeric : CharSet :=
  .union decimalNumber (.ofText "600-605 66B 6DD 890-891 8E2 19DA 110BD 110CD")

/-- The classes for words. -/
def wordClasses : List (List String × CharSet) :=
  [(["cr"], carriageReturn),
    (["lf"], .lineFeed),
    (["nl", "newline"], .ofText "B-C 85 2028-2029"),
    (["ex", "extendnumlet"], .union connectorPunctuation (.ofText "202F")),
    (["extend"], wordExtend),
    (["fo", "format"], .diff format (.union visibleFormat (.ofText "70F 200B"))),
    (["ka", "katakana"], wordKatakana),
    (["hl", "hebrewletter"], hebrewLetter),
    (["le", "aletter"], wordLetter),
    (["sq", "singlequote"], .ofText "27"),
    (["dq", "doublequote"], .ofText "22"),
    (["mb", "midnumlet"], .ofText "2E 2018-2019 2024 FE52 FF07 FF0E"),
    (["ml", "midletter"], .ofText "3A B7 387 55F 5F4 2027 FE13 FE55 FF1A"),
    (["mn", "midnum"],
      .ofText "2C 3B 37E 589 60C-60D 66C 7F8 2044 FE50 FE54 FF0C FF1B"),
    (["nu", "numeric"], wordNumeric),
    (["ri", "regionalindicator"], regionalIndicator),
    (["wsegspace"], .diff spaceSeparator (.ofText "A0 2007 202F")),
    (["zwj"], zeroWidthJoiner)]

/-- Characters that belong to the one in front of them inside a sentence. -/
def sentenceExtend : CharSet := .unionOf [graphemeExtend, spacingMark, zeroWidthJoiner]

/-- Small letters of sentences. -/
def sentenceLower : CharSet :=
  .diff lowercase (.union graphemeExtend (.ofText "10D0-10FA 10FD-10FF"))

/-- Capital letters of sentences. -/
def sentenceUpper : CharSet :=
  .diff (.union uppercase titlecaseLetter) (.ofText "1C90-1CBA 1CBD-1CBF")

/-- Letters of sentences that are neither small nor capital. -/
def sentenceOtherLetter : CharSet :=
  .union (.diff alphabetic (.unionOf [sentenceLower, sentenceUpper, sentenceExtend]))
    (.ofText "5F3")

/-- Points that may end a sentence or an abbreviation. -/
def ambiguousTerminal : CharSet := .ofText "2E 2024 FE52 FF0E"

/-- Brackets and quotation marks. -/
def sentenceClose : CharSet :=
  .unionOf [openPunctuation, closePunctuation, initialPunctuation, finalPunctuation,
    .ofText "22 27 275B-2760 2E00-2E01 2E06-2E08 2E0B 1F676-1F678"]

/-- The classes for sentences. -/
def sentenceClasses : List (List String × CharSet) :=
  [(["cr"], carriageReturn),
    (["lf"], .lineFeed),
    (["se", "sep"], .ofText "85 2028-2029"),
    (["ex", "extend"], sentenceExtend),
    (["fo", "format"], .diff format visibleFormat),
    (["sp"], .diff whiteSpace (.ofText "A D 85 2028-2029")),
    (["lo", "lower"], sentenceLower),
    (["up", "upper"], sentenceUpper),
    (["le", "oletter"], sentenceOtherLetter),
    (["nu", "numeric"], .union wordNumeric (.ofText "66C")),
    (["at", "aterm"], ambiguousTerminal),
    (["st", "sterm"], .diff sentenceTerminal ambiguousTerminal),
    (["cl", "close"], sentenceClose),
    (["sc", "scontinue"], .ofText "
2C-2D 3A-3B 37E 55D 60C-60D 7F8 1802 1808 2013-2014 3001 FE10-FE11 FE13-FE14 FE31-FE32
FE50-FE51 FE54-FE55 FE58 FE63 FF0C-FF0D FF1A-FF1B FF64")]

end ArchiveScout.Unicode
