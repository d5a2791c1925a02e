import PackQuery.Unicode.Mark

/-!
# Escaped forms of text

Error messages show characters and paths in quotes, with escapes for what would not be readable:
the quote, the backslash, controls, characters that join their predecessor and invisible ones.

What is readable depends on the characters that are known. Quoted forms know those of version 17.0
of the Unicode standard, which `laterCharacters` adds to version 16.0.
-/

namespace PackQuery.Text

/-! ## Readable characters -/

/-- The characters that version 17.0 assigned. -/
def laterCharacters : CharSet := .ofText [
  "88F C5C CDC 1ACF-1ADD 1AE0-1AEB 20C1 2B96 A7CE-A7CF A7D2 A7D4 A7F1 FBC3-FBD2 FD90-FD91",
  "FDC8-FDCE 10940-10959 10EC5-10EC7 10ED0-10ED8 10EFA-10EFB 11B60-11B67 11DB0-11DDB",
  "11DE0-11DE9 16EA0-16EB8 16EBB-16ED3 16FF2-16FF6 187F8-187FF 18D09-18D1E 18D80-18DF2",
  "1CCFA-1CCFC 1CEBA-1CED0 1CEE0-1CEF0 1E6C0-1E6DE 1E6E0-1E6F5 1E6FE-1E6FF 1F6D8",
  "1F777-1F77A 1F8D0-1F8D8 1FA54-1FA57 1FA8A 1FA8E 1FAC8 1FACD 1FAEA 1FAEF 1FBFA",
  "2B73A-2B73F 2CEA2-2CEAD 323B0-33479"]

/-- Those of them that join the character before them. -/
def laterJoining : CharSet := .ofText [
  "1ACF-1ADD 1AE0-1AEB 10EFA-10EFB 11B60 11B62-11B64 11B66 1E6E3 1E6E6 1E6EE-1E6EF 1E6F5"]

/-- The characters that join the one before them, the letters among them apart. -/
def joiningMarks : CharSet :=
  (Unicode.joining.diff (Unicode.ofCategory "Lm")).union laterJoining

/-- The characters that show nothing: controls, separators other than the space, and what is not
assigned. -/
def unseen : CharSet :=
  ((Unicode.ofMajor 'C').union (Unicode.ofMajor 'Z')).diff (laterCharacters.union (.single ' '))

/-- The characters that are shown by their code points. -/
def unreadable : CharSet := .unions [joiningMarks, unseen, Unicode.ignorable]

/-! ## Quoted forms -/

/-- The hexadecimal digits of a number, in lower case and without leading zeros. -/
def hexDigits (n : Nat) : String := String.ofList (Nat.toDigits 16 n)

/-- A character as it stands between two quotes of a kind. -/
def escapeChar (quote c : Char) : String :=
  if c == '\x00' then "\\0"
  else if c == '\t' then "\\t"
  else if c == '\n' then "\\n"
  else if c == '\r' then "\\r"
  else if c == '\\' || c == quote then String.ofList ['\\', c]
  else if unreadable.contains c then "\\u\x7b" ++ hexDigits c.toNat ++ "\x7d"
  else String.singleton c

/-- A character between single quotes. -/
def quotedChar (c : Char) : String := "'" ++ escapeChar '\'' c ++ "'"

/-- A path between double quotes. -/
def quotedPath (s : String) : String :=
  "\"" ++ String.join (s.toList.map (escapeChar '"')) ++ "\""

end PackQuery.Text
