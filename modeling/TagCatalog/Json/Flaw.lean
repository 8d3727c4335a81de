import TagCatalog.Text.Quoted

/-!
What is wrong with a text that is not the JSON wanted, and where.

* `Flaw.message`: the wording.
* `Diagnosis.message`: the wording with the line, and the bytes of that line up to the flaw.
-/

namespace TagCatalog.Json

/-- What is wrong with a text. -/
inductive Flaw
  /-- The text ends before a value, or within one. -/
  | valueEnds
  | listEnds
  | objectEnds
  | stringEnds
  /-- No value begins here. -/
  | noValue
  /-- A word is not one of the three that are values. -/
  | noWord
  /-- A key is not followed by a colon. -/
  | noColon
  /-- An item is followed by neither a comma nor the end of its list. -/
  | noListComma
  /-- A member is followed by neither a comma nor the end of its object. -/
  | noObjectComma
  /-- A comma is followed by the end of its list or object. -/
  | needlessComma
  /-- More follows where the end was wanted. -/
  | needlessText
  | keyIsNoString
  | badNumber
  | greatNumber
  | badEscape
  /-- A control character stands in a string. -/
  | control
  /-- The second of two escapes that stand for one character is absent. -/
  | noSecondHalf
  /-- One of two escapes that stand for one character stands alone. -/
  | loneHalf
  /-- A value is of another type than the one wanted. -/
  | wrongType (found wanted : String)
  /-- A number does not fit. -/
  | wrongValue (found wanted : String)
  /-- A list that stands for a structure has too few items. -/
  | wrongLength (length : Nat) (wanted : String)
  /-- A word is none of those wanted. -/
  | unknownWord (word : String) (wanted : List String)
  | missingField (name : String)
  | repeatedField (name : String)
  deriving Repr, DecidableEq

/-- Words one of which is wanted. -/
def alternatives (words : List String) : String :=
  match words.map fun w => "\x60" ++ w ++ "\x60" with
  | [] => "nothing"
  | [a] => a
  | [a, b] => a ++ " or " ++ b
  | l => "one of " ++ ", ".intercalate l

/-- The wording of a flaw. -/
def Flaw.message : Flaw → String
  | valueEnds => "EOF while parsing a value"
  | listEnds => "EOF while parsing a list"
  | objectEnds => "EOF while parsing an object"
  | stringEnds => "EOF while parsing a string"
  | noValue => "expected value"
  | noWord => "expected ident"
  | noColon => "expected \x60:\x60"
  | noListComma => "expected \x60,\x60 or \x60]\x60"
  | noObjectComma => "expected \x60,\x60 or \x60\x7d\x60"
  | needlessComma => "trailing comma"
  | needlessText => "trailing characters"
  | keyIsNoString => "key must be a string"
  | badNumber => "invalid number"
  | greatNumber => "number out of range"
  | badEscape => "invalid escape"
  | control => "control character (\\u0000-\\u001F) found while parsing a string"
  | noSecondHalf => "unexpected end of hex escape"
  | loneHalf => "lone leading surrogate in hex escape"
  | wrongType found wanted => "invalid type: " ++ found ++ ", expected " ++ wanted
  | wrongValue found wanted => "invalid value: " ++ found ++ ", expected " ++ wanted
  | wrongLength length wanted => "invalid length " ++ toString length ++ ", expected " ++ wanted
  | unknownWord word wanted =>
    "unknown variant \x60" ++ word ++ "\x60, expected " ++ alternatives wanted
  | missingField name => "missing field \x60" ++ name ++ "\x60"
  | repeatedField name => "duplicate field \x60" ++ name ++ "\x60"

/-- A flaw and its place. -/
structure Diagnosis where
  flaw : Flaw
  /-- The number of the line, from one. -/
  line : Nat
  /-- The bytes of the line up to the flaw. -/
  column : Nat
  deriving Repr, DecidableEq

/-- The wording of a flaw and its place. -/
def Diagnosis.message (d : Diagnosis) : String :=
  d.flaw.message ++ " at line " ++ toString d.line ++ " column " ++ toString d.column

end TagCatalog.Json
