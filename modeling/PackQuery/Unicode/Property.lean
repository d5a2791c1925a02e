import PackQuery.Text.Cut
import PackQuery.Unicode.Age
import PackQuery.Unicode.Boundary

/-!
# Properties of characters

The sets of characters that the Unicode standard gives names to. A name alone denotes a property
that characters have or not, a general category or a script; a name with a value denotes the
characters for which the property has the value.

**Names.** Upper and lower case, blanks, dashes and underscores make no difference, nor does an
`is` in front of a name.
-/

namespace PackQuery.Unicode

/-! ## Named sets -/

/-- The characters with white space between words. -/
def blanks : CharSet :=
  ⟨Text.blankRanges⟩

/-- The properties that characters have or not, by their names. -/
def properties : List (List String × CharSet) := [
  (["asciihexdigit", "ahex"], asciiHexDigits),
  (["alphabetic", "alpha"], alphabetic),
  (["bidicontrol", "bidic"], directionControls),
  (["bidimirrored", "bidim"], mirrored),
  (["caseignorable", "ci"], caseIgnorable),
  (["cased"], cased),
  (["changeswhencasefolded", "cwcf"], changesFolded),
  (["changeswhencasemapped", "cwcm"], changesMapped),
  (["changeswhenlowercased", "cwl"], changesLowercased),
  (["changeswhentitlecased", "cwt"], changesTitlecased),
  (["changeswhenuppercased", "cwu"], changesUppercased),
  (["dash"], dashes),
  (["defaultignorablecodepoint", "di"], ignorable),
  (["deprecated", "dep"], deprecated),
  (["diacritic", "dia"], diacritics),
  (["emoji"], emoji),
  (["emojicomponent", "ecomp"], emojiComponents),
  (["emojimodifier", "emod"], emojiModifiers),
  (["emojimodifierbase", "ebase"], emojiBases),
  (["emojipresentation", "epres"], emojiPictures),
  (["extendedpictographic", "extpict"], pictographs),
  (["extender", "ext"], extenders),
  (["graphemebase", "grbase"], bases),
  (["graphemeextend", "grext"], joining),
  (["graphemelink", "grlink"], links),
  (["hexdigit", "hex"], hexDigits),
  (["hyphen"], hyphens),
  (["idcompatmathcontinue"], mathNameContinue),
  (["idcompatmathstart"], mathNameStart),
  (["idcontinue", "idc"], nameContinue),
  (["idstart", "ids"], nameStart),
  (["idsbinaryoperator", "idsb"], binaryDescriptions),
  (["idstrinaryoperator", "idst"], ternaryDescriptions),
  (["idsunaryoperator", "idsu"], unaryDescriptions),
  (["ideographic", "ideo"], ideographic),
  (["joincontrol", "joinc"], joinControls),
  (["logicalorderexception", "loe"], visualOrder),
  (["lowercase", "lower"], lowercase),
  (["math"], math),
  (["modifiercombiningmark", "mcm"], modifierMarks),
  (["noncharactercodepoint", "nchar"], noncharacters),
  (["otheralphabetic", "oalpha"], otherAlphabetic),
  (["otherdefaultignorablecodepoint", "odi"], otherIgnorable),
  (["othergraphemeextend", "ogrext"], otherJoining),
  (["otheridcontinue", "oidc"], otherNameContinue),
  (["otheridstart", "oids"], otherNameStart),
  (["otherlowercase", "olower"], otherLowercase),
  (["othermath", "omath"], otherMath),
  (["otheruppercase", "oupper"], otherUppercase),
  (["patternsyntax", "patsyn"], patternMarks),
  (["patternwhitespace", "patws"], patternBlanks),
  (["prependedconcatenationmark", "pcm"], prepended),
  (["quotationmark", "qmark"], quotationMarks),
  (["radical"], radicals),
  (["regionalindicator", "ri"], regionalIndicators),
  (["sentenceterminal", "sterm"], sentenceTerminals),
  (["softdotted", "sd"], softDotted),
  (["terminalpunctuation", "term"], terminals),
  (["unifiedideograph", "uideo"], unifiedIdeographs),
  (["uppercase", "upper"], uppercase),
  (["variationselector", "vs"], selectors),
  (["whitespace", "wspace", "space"], blanks),
  (["xidcontinue", "xidc"], stableNameContinue),
  (["xidstart", "xids"], stableNameStart)]

/-- The general categories, by their names. Surrogates are no characters and so have no name. -/
def categories : List (List String × CharSet) := [
  (["any"], .all),
  (["assigned"], (ofCategory "Cn").negation),
  (["ascii"], .ofText ["0-7F"]),
  (["c", "other"], ofMajor 'C'),
  (["cc", "control", "cntrl"], ofCategory "Cc"),
  (["cf", "format"], ofCategory "Cf"),
  (["cn", "unassigned"], ofCategory "Cn"),
  (["co", "privateuse"], ofCategory "Co"),
  (["l", "letter"], ofMajor 'L'),
  (["lc", "casedletter"], .unions [ofCategory "Ll", ofCategory "Lt", ofCategory "Lu"]),
  (["ll", "lowercaseletter"], ofCategory "Ll"),
  (["lm", "modifierletter"], ofCategory "Lm"),
  (["lo", "otherletter"], ofCategory "Lo"),
  (["lt", "titlecaseletter"], ofCategory "Lt"),
  (["lu", "uppercaseletter"], ofCategory "Lu"),
  (["m", "mark", "combiningmark"], ofMajor 'M'),
  (["mc", "spacingmark"], ofCategory "Mc"),
  (["me", "enclosingmark"], ofCategory "Me"),
  (["mn", "nonspacingmark"], ofCategory "Mn"),
  (["n", "number"], ofMajor 'N'),
  (["nd", "decimalnumber", "digit"], ofCategory "Nd"),
  (["nl", "letternumber"], ofCategory "Nl"),
  (["no", "othernumber"], ofCategory "No"),
  (["p", "punctuation", "punct"], ofMajor 'P'),
  (["pc", "connectorpunctuation"], ofCategory "Pc"),
  (["pd", "dashpunctuation"], ofCategory "Pd"),
  (["pe", "closepunctuation"], ofCategory "Pe"),
  (["pf", "finalpunctuation"], ofCategory "Pf"),
  (["pi", "initialpunctuation"], ofCategory "Pi"),
  (["po", "otherpunctuation"], ofCategory "Po"),
  (["ps", "openpunctuation"], ofCategory "Ps"),
  (["s", "symbol"], ofMajor 'S'),
  (["sc", "currencysymbol"], ofCategory "Sc"),
  (["sk", "modifiersymbol"], ofCategory "Sk"),
  (["sm", "mathsymbol"], ofCategory "Sm"),
  (["so", "othersymbol"], ofCategory "So"),
  (["z", "separator"], ofMajor 'Z'),
  (["zl", "lineseparator"], ofCategory "Zl"),
  (["zp", "paragraphseparator"], ofCategory "Zp"),
  (["zs", "spaceseparator"], ofCategory "Zs")]

/-! ## Names -/

/-- The characters of a name that tell names apart, in lower case. -/
def foldName (s : List Char) : List Char :=
  (s.filter fun c => c.toNat < 128 && c != ' ' && c != '_' && c != '-').map Char.toLower

/-- A name as the tables have it. The name of the category `C` cannot have an `is` in front. -/
def looseName (s : List Char) : String :=
  match s with
  | i :: t :: rest =>
    if i.toLower == 'i' && t.toLower == 's' then
      let name := foldName rest
      String.ofList (if name == ['c'] then ['i', 's', 'c'] else name)
    else String.ofList (foldName s)
  | _ => String.ofList (foldName s)

/-- The set of a name that stands alone. -/
def ofName? (s : List Char) : Option CharSet :=
  let name := looseName s
  named? properties name <|> named? categories name <|> ofScript? name

/-- The characters for which a property has a value. -/
def ofValue? (property value : List Char) : Option CharSet :=
  let property := looseName property
  let value := looseName value
  if ["generalcategory", "gc"].contains property then named? categories value
  else if ["script", "sc"].contains property then ofScript? value
  else if ["scriptextensions", "scx"].contains property then usedInScript? value
  else if property == "age" then knownIn? value
  else if ["graphemeclusterbreak", "gcb"].contains property then named? characterClasses value
  else if ["wordbreak", "wb"].contains property then named? wordClasses value
  else if ["sentencebreak", "sb"].contains property then named? sentenceClasses value
  else none

end PackQuery.Unicode
