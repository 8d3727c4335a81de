import TagCatalog.Text.CombiningClass
import TagCatalog.Text.Decomposition

/-!
One way to write each text: marks in the order of their classes, and a letter with its marks as one
character where there is one.

* `Text.compose`: a text in that form. Characters that stand for others are to be taken apart
  before.
-/

namespace TagCatalog.Text

/-- A mark before others, after those of lower classes. -/
def placeMark (c : Char) : List Char → List Char
  | [] => [c]
  | d :: rest =>
    if combiningClass d ≠ 0 ∧ combiningClass d < combiningClass c then d :: placeMark c rest
    else c :: d :: rest

/-- A text with the marks after each letter in the order of their classes. -/
def orderMarks : List Char → List Char
  | [] => []
  | c :: rest =>
    if combiningClass c = 0 then c :: orderMarks rest else placeMark c (orderMarks rest)

/-- A text that begins with `letter`, after which `kept`, reversed, are the marks that did not unite
with it. A mark can do so unless one of its class or a higher one stands between. -/
def unite (letter : Char) (kept : List Char) : List Char → List Char
  | [] => letter :: kept.reverse
  | c :: rest =>
    let isNear := kept.head?.all fun d => combiningClass d < combiningClass c
    match if isNear then pair? letter c else none with
    | some whole => unite whole kept rest
    | none =>
      if combiningClass c = 0 then letter :: (kept.reverse ++ unite c [] rest)
      else unite letter (c :: kept) rest

/-- A text with its marks in order, and united with their letters. -/
def compose (s : List Char) : List Char :=
  match orderMarks s with
  | [] => []
  | c :: rest => unite c [] rest

end TagCatalog.Text
