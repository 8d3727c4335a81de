/-!
Blanks: the characters that stand for empty space in any script.

* `Text.isBlank`: such a character.
* `Text.trim`: a text without blanks around it; `Text.trimWhere` without other characters.
-/

namespace TagCatalog.Text

/-- The first and last characters of each run of blanks. -/
def blankRuns : List (Char × Char) :=
  [('\t', '\r'), (' ', ' '), ('\u0085', '\u0085'), ('\u00a0', '\u00a0'), ('\u1680', '\u1680'),
    ('\u2000', '\u200a'), ('\u2028', '\u2029'), ('\u202f', '\u202f'), ('\u205f', '\u205f'),
    ('\u3000', '\u3000')]

/-- Whether a character stands for empty space. -/
def isBlank (c : Char) : Bool := blankRuns.any fun r => r.1 ≤ c && c ≤ r.2

/-- A text without certain characters at its end. -/
def trimEndWhere (p : Char → Bool) (s : String) : String :=
  String.ofList (s.toList.reverse.dropWhile p).reverse

/-- A text without certain characters around it. -/
def trimWhere (p : Char → Bool) (s : String) : String :=
  trimEndWhere p (String.ofList (s.toList.dropWhile p))

/-- A text without blanks around it. -/
def trim (s : String) : String := trimWhere isBlank s

end TagCatalog.Text
