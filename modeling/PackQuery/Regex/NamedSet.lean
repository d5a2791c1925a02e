import PackQuery.Text.Cut
import PackQuery.Unicode.Property

/-!
# Named sets of characters

The sets that patterns can refer to by name: the shorthands for digits, blanks and words, the
ASCII classes, and the properties of the Unicode standard.
-/

namespace PackQuery.Regex

/-- Word characters: what is alphabetic, marks, decimal digits, connecting punctuation and the
controls of joined forms. -/
def wordCharacters : CharSet :=
  .unions [Unicode.alphabetic, Unicode.ofMajor 'M', Unicode.ofCategory "Nd",
    Unicode.ofCategory "Pc", Unicode.joinControls]

/-- Decimal digits of all scripts. -/
def decimalDigits : CharSet := Unicode.ofCategory "Nd"

/-- The set of a shorthand letter: digits, blanks or word characters, an upper-case letter for
the complement. -/
def shorthand? : Char → Option CharSet
  | 'd' => some decimalDigits
  | 's' => some Unicode.blanks
  | 'w' => some wordCharacters
  | 'D' => some decimalDigits.negation
  | 'S' => some Unicode.blanks.negation
  | 'W' => some wordCharacters.negation
  | _ => none

/-- The ASCII classes by name. -/
def asciiClasses : List (String × CharSet) :=
  [("alnum", .ofText ["30-39 41-5A 61-7A"]),
   ("alpha", .ofText ["41-5A 61-7A"]),
   ("ascii", .ofText ["0-7F"]),
   ("blank", .ofText ["9 20"]),
   ("cntrl", .ofText ["0-1F 7F"]),
   ("digit", .ofText ["30-39"]),
   ("graph", .ofText ["21-7E"]),
   ("lower", .ofText ["61-7A"]),
   ("print", .ofText ["20-7E"]),
   ("punct", .ofText ["21-2F 3A-40 5B-60 7B-7E"]),
   ("space", .ofText ["9-D 20"]),
   ("upper", .ofText ["41-5A"]),
   ("word", .ofText ["30-39 41-5A 5F 61-7A"]),
   ("xdigit", .ofText ["30-39 41-46 61-66"])]

/-- The text between the braces of a property as a name and a value, if a sign stands between them.
Which sign it is makes no difference. -/
def nameAndValue? (text : List Char) : Option (List Char × List Char) :=
  Chars.cut? ['!', '='] text <|> Chars.cut? [':'] text <|> Chars.cut? ['='] text

/-- The set of the text between the braces of a property: a name, or a name and a value. -/
def property? (text : List Char) : Option CharSet :=
  match nameAndValue? text with
  | some (name, value) => Unicode.ofValue? name value
  | none => Unicode.ofName? text

end PackQuery.Regex
