import PackQuery.Unicode.Category

/-!
# Letters

What is alphabetic, which letters have a case and change with it, and what names in programs are
made of. Most of these sets rest on the general categories, to which each one adds some characters
of its own.
-/

namespace PackQuery.Unicode

/-- Characters that are alphabetic without being letters or letter numbers. -/
def otherAlphabetic : CharSet := .ofText [
  "345 363-36F 5B0-5BD 5BF 5C1-5C2 5C4-5C5 5C7 610-61A 64B-657 659-65F 670 6D6-6DC 6E1-6E4 6E7-6E8",
  "6ED 711 730-73F 7A6-7B0 816-817 81B-823 825-827 829-82C 897 8D4-8DF 8E3-8E9 8F0-903 93A-93B",
  "93E-94C 94E-94F 955-957 962-963 981-983 9BE-9C4 9C7-9C8 9CB-9CC 9D7 9E2-9E3 A01-A03 A3E-A42",
  "A47-A48 A4B-A4C A51 A70-A71 A75 A81-A83 ABE-AC5 AC7-AC9 ACB-ACC AE2-AE3 AFA-AFC B01-B03 B3E-B44",
  "B47-B48 B4B-B4C B56-B57 B62-B63 B82 BBE-BC2 BC6-BC8 BCA-BCC BD7 C00-C04 C3E-C44 C46-C48 C4A-C4C",
  "C55-C56 C62-C63 C81-C83 CBE-CC4 CC6-CC8 CCA-CCC CD5-CD6 CE2-CE3 CF3 D00-D03 D3E-D44 D46-D48",
  "D4A-D4C D57 D62-D63 D81-D83 DCF-DD4 DD6 DD8-DDF DF2-DF3 E31 E34-E3A E4D EB1 EB4-EB9 EBB-EBC ECD",
  "F71-F83 F8D-F97 F99-FBC 102B-1036 1038 103B-103E 1056-1059 105E-1060 1062-1064 1067-106D",
  "1071-1074 1082-108D 108F 109A-109D 1712-1713 1732-1733 1752-1753 1772-1773 17B6-17C8 1885-1886",
  "18A9 1920-192B 1930-1938 1A17-1A1B 1A55-1A5E 1A61-1A74 1ABF-1AC0 1ACC-1ACE 1B00-1B04 1B35-1B43",
  "1B80-1B82 1BA1-1BA9 1BAC-1BAD 1BE7-1BF1 1C24-1C36 1DD3-1DF4 24B6-24E9 2DE0-2DFF A674-A67B",
  "A69E-A69F A802 A80B A823-A827 A880-A881 A8B4-A8C3 A8C5 A8FF A926-A92A A947-A952 A980-A983",
  "A9B4-A9BF A9E5 AA29-AA36 AA43 AA4C-AA4D AA7B-AA7D AAB0 AAB2-AAB4 AAB7-AAB8 AABE AAEB-AAEF AAF5",
  "ABE3-ABEA FB1E 10376-1037A 10A01-10A03 10A05-10A06 10A0C-10A0F 10D24-10D27 10D69 10EAB-10EAC",
  "10EFC 11000-11002 11038-11045 11073-11074 11080-11082 110B0-110B8 110C2 11100-11102 11127-11132",
  "11145-11146 11180-11182 111B3-111BF 111CE-111CF 1122C-11234 11237 1123E 11241 112DF-112E8",
  "11300-11303 1133E-11344 11347-11348 1134B-1134C 11357 11362-11363 113B8-113C0 113C2 113C5",
  "113C7-113CA 113CC-113CD 11435-11441 11443-11445 114B0-114C1 115AF-115B5 115B8-115BE 115DC-115DD",
  "11630-1163E 11640 116AB-116B5 1171D-1172A 1182C-11838 11930-11935 11937-11938 1193B-1193C 11940",
  "11942 119D1-119D7 119DA-119DF 119E4 11A01-11A0A 11A35-11A39 11A3B-11A3E 11A51-11A5B 11A8A-11A97",
  "11C2F-11C36 11C38-11C3E 11C92-11CA7 11CA9-11CB6 11D31-11D36 11D3A 11D3C-11D3D 11D3F-11D41 11D43",
  "11D47 11D8A-11D8E 11D90-11D91 11D93-11D96 11EF3-11EF6 11F00-11F01 11F03 11F34-11F3A 11F3E-11F40",
  "1611E-1612E 16F4F 16F51-16F87 16F8F-16F92 16FF0-16FF1 1BC9E 1E000-1E006 1E008-1E018 1E01B-1E021",
  "1E023-1E024 1E026-1E02A 1E08F 1E947 1F130-1F149 1F150-1F169 1F170-1F189"]

/-- Characters that are lower-case without being lower-case letters. -/
def otherLowercase : CharSet := .ofText [
  "AA BA 2B0-2B8 2C0-2C1 2E0-2E4 345 37A 10FC 1D2C-1D6A 1D78 1D9B-1DBF 2071 207F 2090-209C",
  "2170-217F 24D0-24E9 2C7C-2C7D A69C-A69D A770 A7F2-A7F4 A7F8-A7F9 AB5C-AB5F AB69 10780",
  "10783-10785 10787-107B0 107B2-107BA 1E030-1E06D"]

/-- Characters that are upper-case without being upper-case letters. -/
def otherUppercase : CharSet := .ofText ["2160-216F 24B6-24CF 1F130-1F149 1F150-1F169 1F170-1F189"]

/-- Lower-case characters. -/
def lowercase : CharSet :=
  (ofCategory "Ll").union otherLowercase

/-- Upper-case characters. -/
def uppercase : CharSet :=
  (ofCategory "Lu").union otherUppercase

/-- Alphabetic characters. -/
def alphabetic : CharSet :=
  .unions [ofMajor 'L', ofCategory "Nl", otherAlphabetic]

/-- Characters that have a case. -/
def cased : CharSet :=
  .unions [lowercase, uppercase, ofCategory "Lt"]

/-- Ideographs. -/
def ideographic : CharSet := .ofText [
  "3006-3007 3021-3029 3038-303A 3400-4DBF 4E00-9FFF F900-FA6D FA70-FAD9 16FE4 17000-187F7",
  "18800-18CD5 18CFF-18D08 1B170-1B2FB 20000-2A6DF 2A700-2B739 2B740-2B81D 2B820-2CEA1 2CEB0-2EBE0",
  "2EBF0-2EE5D 2F800-2FA1D 30000-3134A 31350-323AF"]

/-- Ideographs that are shared between East Asian scripts. -/
def unifiedIdeographs : CharSet := .ofText [
  "3400-4DBF 4E00-9FFF FA0E-FA0F FA11 FA13-FA14 FA1F FA21 FA23-FA24 FA27-FA29 20000-2A6DF",
  "2A700-2B739 2B740-2B81D 2B820-2CEA1 2CEB0-2EBE0 2EBF0-2EE5D 30000-3134A 31350-323AF"]

/-- Parts that ideographs are listed by. -/
def radicals : CharSet := .ofText ["2E80-2E99 2E9B-2EF3 2F00-2FD5"]

/-! ## Changes of case -/

/-- Upper-case characters that have no lower-case form. -/
def onlyUppercase : CharSet := .ofText [
  "3D2-3D4 2102 2107 210B-210D 2110-2112 2115 2119-211D 2124 2128 212C-212D 2130-2131 2133",
  "213E-213F 2145 1D400-1D419 1D434-1D44D 1D468-1D481 1D49C 1D49E-1D49F 1D4A2 1D4A5-1D4A6",
  "1D4A9-1D4AC 1D4AE-1D4B5 1D4D0-1D4E9 1D504-1D505 1D507-1D50A 1D50D-1D514 1D516-1D51C 1D538-1D539",
  "1D53B-1D53E 1D540-1D544 1D546 1D54A-1D550 1D56C-1D585 1D5A0-1D5B9 1D5D4-1D5ED 1D608-1D621",
  "1D63C-1D655 1D670-1D689 1D6A8-1D6C0 1D6E2-1D6FA 1D71C-1D734 1D756-1D76E 1D790-1D7A8 1D7CA",
  "1F130-1F149 1F150-1F169 1F170-1F189"]

/-- Lower-case characters that have no upper-case form. -/
def onlyLowercase : CharSet := .ofText [
  "AA BA 138 18D 1AA-1AB 1BA 1BE 221 234-239 255 258 25A 25D-25F 262 267 26D-26E 270 273-274",
  "276-27C 27E-27F 281 284-286 28D-291 293 295-29C 29F-2B8 2C0-2C1 2E0-2E4 37A 3FC 560 588 10FC",
  "1D00-1D78 1D7A-1D7C 1D7E-1D8D 1D8F-1DBF 1E9C-1E9D 1E9F 2071 207F 2090-209C 210A 210E-210F 2113",
  "212F 2134 2139 213C-213D 2146-2149 2C71 2C74 2C77-2C7D 2CE4 A69C-A69D A730-A731 A770-A778 A78E",
  "A795 A7AF A7D3 A7D5 A7F2-A7F4 A7F8-A7FA AB30-AB52 AB54-AB5A AB5C-AB69 10780 10783-10785",
  "10787-107B0 107B2-107BA 1D41A-1D433 1D44E-1D454 1D456-1D467 1D482-1D49B 1D4B6-1D4B9 1D4BB",
  "1D4BD-1D4C3 1D4C5-1D4CF 1D4EA-1D503 1D51E-1D537 1D552-1D56B 1D586-1D59F 1D5BA-1D5D3 1D5EE-1D607",
  "1D622-1D63B 1D656-1D66F 1D68A-1D6A5 1D6C2-1D6DA 1D6DC-1D6E1 1D6FC-1D714 1D716-1D71B 1D736-1D74E",
  "1D750-1D755 1D770-1D788 1D78A-1D78F 1D7AA-1D7C2 1D7C4-1D7C9 1D7CB 1DF00-1DF09 1DF0B-1DF1E",
  "1DF25-1DF2A 1E030-1E06D"]

/-- Characters that folding of case changes though they have no upper case. -/
def foldedLowercase : CharSet := .ofText [
  "B5 DF 149 17F 345 3C2 3D0-3D1 3D5-3D6 3F0-3F1 3F5 587 13F8-13FD 1C80-1C88 1E9A-1E9B 1F80-1F87",
  "1F90-1F97 1FA0-1FA7 1FB2-1FB4 1FB7 1FC2-1FC4 1FC7 1FF2-1FF4 1FF7 AB70-ABBF FB00-FB06 FB13-FB17"]

/-- Characters that lower-casing changes. -/
def changesLowercased : CharSet :=
  (uppercase.diff onlyUppercase).union (ofCategory "Lt")

/-- Characters that upper-casing changes. -/
def changesUppercased : CharSet :=
  (lowercase.diff onlyLowercase).union (ofCategory "Lt")

/-- Characters that title-casing changes: not those that are in title case, nor the letters of a
script without it, but the digraphs in upper case. -/
def changesTitlecased : CharSet :=
  (changesUppercased.diff ((ofCategory "Lt").union (.ofText ["10D0-10FA 10FD-10FF"]))).union
    (.ofText ["1C4 1C7 1CA 1F1"])

/-- Characters that folding of case changes. Of one script upper case is the folded form. -/
def changesFolded : CharSet :=
  (changesLowercased.diff (.ofText ["13A0-13F5"])).union foldedLowercase

/-- Characters that some change of case changes. -/
def changesMapped : CharSet :=
  .unions [changesLowercased, changesUppercased, changesTitlecased]

/-! ## Names -/

/-- Characters with which names have always started. -/
def otherNameStart : CharSet := .ofText ["1885-1886 2118 212E 309B-309C"]

/-- Characters with which names have always gone on. -/
def otherNameContinue : CharSet := .ofText ["B7 387 1369-1371 19DA 200C-200D 30FB FF65"]

/-- Characters that stand for operators and marks in patterns. -/
def patternMarks : CharSet := .ofText [
  "21-2F 3A-40 5B-5E 60 7B-7E A1-A7 A9 AB-AC AE B0-B1 B6 BB BF D7 F7 2010-2027 2030-203E 2041-2053",
  "2055-205E 2190-245F 2500-2775 2794-2BFF 2E00-2E7F 3001-3003 3008-3020 3030 FD3E-FD3F FE45-FE46"]

/-- Characters that separate the parts of patterns. -/
def patternBlanks : CharSet := .ofText ["9-D 20 85 200E-200F 2028-2029"]

/-- Characters with which a name starts. -/
def nameStart : CharSet :=
  (CharSet.unions [ofMajor 'L', ofCategory "Nl", otherNameStart]).diff
    (patternMarks.union patternBlanks)

/-- Characters with which a name goes on. -/
def nameContinue : CharSet :=
  (CharSet.unions [nameStart, ofCategory "Mn", ofCategory "Mc", ofCategory "Nd", ofCategory "Pc",
    otherNameContinue]).diff (patternMarks.union patternBlanks)

/-- Characters whose compatibility forms are no names. -/
def unstableContinue : CharSet := .ofText [
  "37A 309B-309C FC5E-FC63 FDFA-FDFB FE70 FE72 FE74 FE76 FE78 FE7A FE7C FE7E"]

/-- Characters whose compatibility forms do not start names. -/
def unstableStart : CharSet := .ofText [
  "37A E33 EB3 309B-309C FC5E-FC63 FDFA-FDFB FE70 FE72 FE74 FE76 FE78 FE7A FE7C FE7E FF9E-FF9F"]

/-- Characters with which a name starts in every normal form. -/
def stableNameStart : CharSet :=
  nameStart.diff unstableStart

/-- Characters with which a name goes on in every normal form. -/
def stableNameContinue : CharSet :=
  nameContinue.diff unstableContinue

end PackQuery.Unicode
