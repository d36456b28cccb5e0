import RuleVocabulary.Text.Printable

/-!
# Quoted text

A text shown inside a message stands in double quotes. Quotes and backslashes get a backslash,
the common control characters have names, and what could not be told apart on paper is written as
a code point.
-/

set_option autoImplicit false

namespace RuleVocabulary.Text

/-- A number in hexadecimal digits, without leading zeros. -/
def hexadecimal (n : Nat) : String :=
  String.ofList (Nat.toDigits 16 n)

/-- How a quoted text shows one of its characters. -/
def quotedChar (c : Char) : String :=
  if c = '\x00' then "\\0"
  else if c = '\t' then "\\t"
  else if c = '\r' then "\\r"
  else if c = '\n' then "\\n"
  else if c = '"' then "\\\""
  else if c = '\\' then "\\\\"
  else if isPrintable c then String.singleton c
  else "\\u\x7b" ++ hexadecimal c.toNat ++ "\x7d"

/-- A text in double quotes. -/
def quoted (text : String) : String :=
  "\"" ++ String.join (text.toList.map quotedChar) ++ "\""

end RuleVocabulary.Text
