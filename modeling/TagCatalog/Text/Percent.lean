import TagCatalog.Number.Reading
import TagCatalog.Text.Utf8

/-!
Text made fit for addresses: what may not stand there is written byte by byte, as a percent sign and
two digits.

* `Text.percentWhere`: a text of which some characters stand for themselves.
* `Text.percentEncode`: a text as one segment of a path.
* `Text.formEncode`: a text as a name or value of a query.
* `Text.percentDecode?`: the text with such bytes put back.
-/

namespace TagCatalog.Text

/-- An upper-case hexadecimal digit. -/
def upperDigit (n : Nat) : Char := (Nat.digitChar n).toUpper

/-- A byte as a percent sign and two digits. -/
def percentByte (b : UInt8) : List Char :=
  ['%', upperDigit (b.toNat / 16), upperDigit (b.toNat % 16)]

/-- A character byte by byte. -/
def percentChar (c : Char) : List Char := (Utf8.encode (String.singleton c)).flatMap percentByte

/-- The characters of a text, of which those that may not stand are written byte by byte. -/
def percentWhere (keep : Char → Bool) (s : List Char) : List Char :=
  s.flatMap fun c => if keep c then [c] else percentChar c

/-- Whether a character is the space or a visible one of ASCII. -/
def isPrintable (c : Char) : Bool := 0x20 ≤ c.toNat && c.toNat < 0x7f

/-- Whether a character stands for itself in a segment of a path. -/
def isUnreserved (c : Char) : Bool :=
  c.isAlphanum || c = '-' || c = '_' || c = '.' || c = '~'

/-- A text as one segment of a path. -/
def percentEncode (s : String) : String := String.ofList (percentWhere isUnreserved s.toList)

/-- A text as a name or value of a query, with a plus sign for a space. -/
def formEncode (s : String) : String :=
  String.ofList (s.toList.flatMap fun c =>
    if c = ' ' then ['+']
    else if c.isAlphanum || c = '*' || c = '-' || c = '.' || c = '_' then [c]
    else percentChar c)

/-- The bytes of a text, of which those that are written as a percent sign and two digits are put
back. -/
def decodedBytes : List Char → Bytes
  | [] => []
  | [c] => Utf8.encode (String.singleton c)
  | [c, d] => Utf8.encode (String.singleton c) ++ Utf8.encode (String.singleton d)
  | c :: h :: l :: rest =>
    match c, Number.digit? 16 h, Number.digit? 16 l with
    | '%', some high, some low => UInt8.ofNat (high * 16 + low) :: decodedBytes rest
    | _, _, _ => Utf8.encode (String.singleton c) ++ decodedBytes (h :: l :: rest)

/-- The text with bytes put back; none if they make up no text. -/
def percentDecode? (s : List Char) : Option String := Utf8.decode? (decodedBytes s)

end TagCatalog.Text
