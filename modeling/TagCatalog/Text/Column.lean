/-!
Texts in columns of a given width, counted in characters.

* `padLeft`, `padRight`: blanks up to the width.
* `cut`: a text that is too long, with a mark where it was cut.
-/

namespace TagCatalog.Text

/-- So many blanks. -/
def blanks (n : Nat) : String := "".pushn ' ' n

/-- A text with blanks in front. -/
def padLeft (width : Nat) (s : String) : String := blanks (width - s.length) ++ s

/-- A text with blanks behind. -/
def padRight (width : Nat) (s : String) : String := s ++ blanks (width - s.length)

/-- A text of at most `width` characters; of a longer one what fits, and a mark. A width of zero
still leaves the mark. -/
def cut (width : Nat) (s : String) : String :=
  if s.length ≤ width then s else String.ofList (s.toList.take (width - 1)) ++ "…"

end TagCatalog.Text
