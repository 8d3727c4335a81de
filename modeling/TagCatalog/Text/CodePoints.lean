import TagCatalog.Number.Reading
import TagCatalog.Text.Pieces

/-!
Properties of characters, as tables that are written as text. Every number in them is a code point
in hexadecimal digits.

* `CodePoints`: a set of code points, which `CodePoints.ofText` reads and `CodePoints.has` asks.
* `Spellings`: texts for some code points, which `Spellings.ofText` reads and `Spellings.of?` finds.
-/

namespace TagCatalog

/-- Ranges of code points, both ends included. -/
abbrev CodePoints := List (Nat × Nat)

namespace CodePoints

/-- The words of a text with gaps between them. -/
def words (isGap : Char → Bool) (text : String) : List String :=
  ((Text.pieces isGap text.toList).filter (!·.isEmpty)).map String.ofList

/-- The number that hexadecimal digits stand for. -/
def number (digits : String) : Nat := (Number.ofDigits? 16 0 digits.toList).getD 0

/-- The numbers of a text with blanks between them. -/
def numbers (text : String) : List Nat := (words Char.isWhitespace text).map number

/-- Reads code points and ranges, which have a hyphen between their ends, with blanks between. -/
def ofText (text : String) : CodePoints :=
  (words Char.isWhitespace text).map fun range =>
    match (range.splitOn "-").map number with
    | [first, last] => (first, last)
    | ends => (ends.headD 0, ends.headD 0)

/-- Whether a character is in the set. -/
def has (s : CodePoints) (c : Char) : Bool := s.any fun r => r.1 ≤ c.toNat && c.toNat ≤ r.2

end CodePoints

/-- Texts, by number, for some code points. -/
abbrev Spellings := List (Nat × List Nat)

namespace Spellings

/-- Reads the texts for code points that follow one another: the first code point, a colon, and the
texts with commas between. -/
def ofRow (row : String) : Spellings :=
  match row.splitOn ":" with
  | [first, texts] =>
    ((texts.splitOn ",").zipIdx ((CodePoints.numbers first).headD 0)).map fun t =>
      (t.2, CodePoints.numbers t.1)
  | _ => []

/-- Reads rows with semicolons between. -/
def ofText (text : String) : Spellings := (CodePoints.words (· = ';') text).flatMap ofRow

/-- The text for a character. -/
def of? (t : Spellings) (c : Char) : Option (List Char) :=
  (t.lookup c.toNat).map (·.map Char.ofNat)

end Spellings

end TagCatalog
