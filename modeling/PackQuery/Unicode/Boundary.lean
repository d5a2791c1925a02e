import PackQuery.Unicode.Mark
import PackQuery.Unicode.Script
import PackQuery.Unicode.Sign

/-!
# Boundaries in texts

How characters behave where a text is divided into what readers take for characters, into words,
and into sentences. Each way of dividing has classes of its own, which most often rest on general
categories.
-/

namespace PackQuery.Unicode

/-! ## Characters -/

/-- Letters in front of the one that they belong to. -/
def leading : CharSet := .ofText [
  "D4E 111C2-111C3 113D1 1193F 11941 11A3A 11A84-11A89 11D46 11F02"]

/-- Spacing marks that stand on their own. -/
def apart : CharSet := .ofText [
  "102B-102C 1038 1062-1064 1067-106D 1083 1087-108C 108F 109A-109C 1A61 1A63-1A64 AA7B AA7D",
  "11720-11721"]

/-- Controls, separators of lines, and unassigned code points that nothing would be shown for. -/
def controls : CharSet :=
  (CharSet.unions [ofCategory "Cc", ofCategory "Cf", ofCategory "Zl", ofCategory "Zp",
    (ofCategory "Cn").inter ignorable]).diff
    (.unions [joining, prepended, joinControls, .ofText ["A D"]])

/-- The first syllable of each row of syllables without a final consonant. -/
def openSyllables : CharSet :=
  .ofRanges ((List.range 399).map fun i => (0xAC00 + 28 * i, 0xAC00 + 28 * i))

/-- The classes of characters, by their names. -/
def characterClasses : List (List String × CharSet) := [
  (["cr"], .single '\r'),
  (["lf"], .single '\n'),
  (["control", "cn"], controls),
  (["extend", "ex"], joining.union emojiModifiers),
  (["zwj"], .single '\u200d'),
  (["regionalindicator", "ri"], regionalIndicators),
  (["prepend", "pp"], prepended.union leading),
  (["spacingmark", "sm"],
    (((ofCategory "Mc").diff joining).union (.ofText ["E33 EB3"])).diff apart),
  (["l"], .ofText ["1100-115F A960-A97C"]),
  (["v"], .ofText ["1160-11A7 D7B0-D7C6 16D63 16D67-16D6A"]),
  (["t"], .ofText ["11A8-11FF D7CB-D7FB"]),
  (["lv"], openSyllables),
  (["lvt"], (CharSet.ofText ["AC00-D7A3"]).diff openSyllables)]

/-! ## Words -/

/-- Letters of scripts that do not separate words. -/
def unseparated : CharSet := .ofText [
  "E01-E3A E40-E4E E81-E82 E84 E86-E8A E8C-EA3 EA5 EA7-EBD EC0-EC4 EC6 EC8-ECE EDC-EDF 1000-103F",
  "1050-108F 109A-109F 1780-17D3 17D7 17DC-17DD 1950-196D 1970-1974 1980-19AB 19B0-19C9 19DA",
  "19DE-19DF 1A20-1A5E 1A60-1A7C 1AA0-1AAD A9E0-A9EF A9FA-A9FE AA60-AAC2 AADB-AADF 11700-1171A",
  "1171D-1172B 1173A-1173B 1173F-11746"]

/-- Signs that count as letters of words. -/
def wordLetters : CharSet := .ofText [
  "2C2-2C5 2D2-2D7 2DE-2DF 2E5-2EB 2ED 2EF-2FF 55A-55C 55E 58A 5F3 70F A708-A716 A720-A721",
  "A789-A78A AB5B"]

/-- Letters of Katakana, and the signs that are used with them. -/
def syllables : CharSet :=
  ((ofScript? "katakana").getD .empty).union (.ofText ["3031-3035 309B-309C 30A0 30FC FF70"])

/-- Letters of Hebrew. -/
def hebrewLetters : CharSet :=
  ((ofScript? "hebrew").getD .empty).inter (ofCategory "Lo")

/-- Marks that belong to the character before them in words. -/
def wordMarks : CharSet :=
  .unions [joining, ofCategory "Mc", emojiModifiers]

/-- Signs in front of the numbers that they span. -/
def numberSigns : CharSet :=
  prepended.diff (.single '\u070f')

/-- The classes of characters in words, by their names. -/
def wordClasses : List (List String × CharSet) := [
  (["cr"], .single '\r'),
  (["lf"], .single '\n'),
  (["newline", "nl"], .ofText ["B-C 85 2028-2029"]),
  (["extend"], wordMarks),
  (["zwj"], .single '\u200d'),
  (["format", "fo"], (ofCategory "Cf").diff
    (.unions [joining, prepended, joinControls, .single '\u200b'])),
  (["katakana", "ka"], syllables),
  (["hebrewletter", "hl"], hebrewLetters),
  (["aletter", "le"], (alphabetic.union wordLetters).diff
    (.unions [ideographic, syllables, unseparated, (ofScript? "hiragana").getD .empty, wordMarks,
      hebrewLetters])),
  (["singlequote", "sq"], .single '\''),
  (["doublequote", "dq"], .single '"'),
  (["midnumlet", "mb"], .ofText ["2E 2018-2019 2024 FE52 FF07 FF0E"]),
  (["midletter", "ml"], .ofText ["3A B7 387 55F 5F4 2027 FE13 FE55 FF1A"]),
  (["midnum", "mn"], .ofText ["2C 3B 37E 589 60C-60D 66C 7F8 2044 FE50 FE54 FF0C FF1B"]),
  (["numeric", "nu"], .unions [ofCategory "Nd", numberSigns, .ofText ["66B 19DA"]]),
  (["extendnumlet", "ex"], .ofText ["5F 202F 203F-2040 2054 FE33-FE34 FE4D-FE4F FF3F"]),
  (["regionalindicator", "ri"], regionalIndicators),
  (["wsegspace"], .ofText ["20 1680 2000-2006 2008-200A 205F 3000"])]

/-! ## Sentences -/

/-- Marks that belong to the character before them in sentences. -/
def sentenceMarks : CharSet :=
  .unions [joining, ofCategory "Mc", joinControls]

/-- Lower-case letters of scripts that start sentences in upper case. -/
def lowerLetters : CharSet :=
  lowercase.diff (.union joining (.ofText ["10D0-10FA 10FD-10FF"]))

/-- Letters that start sentences where a script has two cases. -/
def upperLetters : CharSet :=
  (uppercase.union (ofCategory "Lt")).diff (.ofText ["1C90-1CBA 1CBD-1CBF"])

/-- Full stops. -/
def fullStops : CharSet :=
  .ofText ["2E 2024 FE52 FF0E"]

/-- Brackets, quotation marks and ornaments in their place. -/
def enclosing : CharSet :=
  .unions [ofCategory "Ps", ofCategory "Pe", ofCategory "Pi", ofCategory "Pf",
    .ofText ["22 27 275B-2760 2E00-2E01 2E06-2E08 2E0B 1F676-1F678"]]

/-- The classes of characters in sentences, by their names. -/
def sentenceClasses : List (List String × CharSet) := [
  (["cr"], .single '\r'),
  (["lf"], .single '\n'),
  (["sep", "se"], .ofText ["85 2028-2029"]),
  (["extend", "ex"], sentenceMarks),
  (["format", "fo"], (ofCategory "Cf").diff (.unions [joining, numberSigns, joinControls])),
  (["sp"], .ofText ["9 B-C 20 A0 1680 2000-200A 202F 205F 3000"]),
  (["lower", "lo"], lowerLetters),
  (["upper", "up"], upperLetters),
  (["oletter", "le"], (alphabetic.union (.single '\u05f3')).diff
    (.unions [lowerLetters, upperLetters, sentenceMarks])),
  (["numeric", "nu"], .unions [ofCategory "Nd", numberSigns, .ofText ["66B-66C 19DA"]]),
  (["aterm", "at"], fullStops),
  (["scontinue", "sc"], .ofText [
    "2C-2D 3A-3B 37E 55D 60C-60D 7F8 1802 1808 2013-2014 3001 FE10-FE11 FE13-FE14 FE31-FE32",
    "FE50-FE51 FE54-FE55 FE58 FE63 FF0C-FF0D FF1A-FF1B FF64"]),
  (["sterm", "st"], sentenceTerminals.diff fullStops),
  (["close", "cl"], enclosing.diff (.union sentenceTerminals fullStops))]

/-- The set of a name in a list of named sets. -/
def named? (sets : List (List String × CharSet)) (name : String) : Option CharSet :=
  (sets.find? (·.1.contains name)).map (·.2)

end PackQuery.Unicode
