/-!
A text cut at certain characters.

* `Text.pieces`: what stands between them.
-/

namespace TagCatalog.Text

/-- The pieces of a text between characters at which it is cut. -/
def pieces (isCut : Char → Bool) : List Char → List (List Char)
  | [] => [[]]
  | c :: rest =>
    if isCut c then [] :: pieces isCut rest
    else match pieces isCut rest with
      | piece :: more => (c :: piece) :: more
      | [] => [[c]]

end TagCatalog.Text
