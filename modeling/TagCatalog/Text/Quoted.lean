import TagCatalog.Bytes.LittleEndian
import TagCatalog.Text.Unprintable

/-!
Values shown inside messages: text in quotes, with everything that cannot be seen escaped, and
bytes as a list of numbers.
-/

namespace TagCatalog.Text

/-- The digits of a number, written with lower-case letters above nine. -/
def digits (base n : Nat) : String := String.ofList (Nat.toDigits base n)

/-- A character by its number. -/
def numericEscape (c : Char) : String := "\\u\x7b" ++ digits 16 c.toNat ++ "\x7d"

/-- A character as it stands between quotes `quote`. -/
def escape (quote : Char) (c : Char) : String :=
  if c = '\x00' then "\\0"
  else if c = '\t' then "\\t"
  else if c = '\r' then "\\r"
  else if c = '\n' then "\\n"
  else if c = '\\' then "\\\\"
  else if c = quote then "\\" ++ String.singleton c
  else if isUnprintable c then numericEscape c
  else String.singleton c

/-- A text in double quotes. -/
def quoted (s : String) : String :=
  "\"" ++ s.foldl (fun shown c => shown ++ escape '"' c) "" ++ "\""

/-- A character in single quotes. -/
def quotedChar (c : Char) : String := "'" ++ escape '\'' c ++ "'"

/-- Bytes as a list of numbers in brackets. -/
def byteList (bytes : Bytes) : String :=
  "[" ++ ", ".intercalate (bytes.map fun b => toString b.toNat) ++ "]"

end TagCatalog.Text
