import TagCatalog.Text.Decomposition
import TagCatalog.Text.Folding.Table

/-!
The usual form of characters in names: capitals become small, and characters that differ in their
form only become one.

* `Text.fold?`: the usual form of a character, taken apart; none if it never stands in a name.
-/

namespace TagCatalog.Text

/-- The usual form of a character that is not taken apart. -/
def foldPart (c : Char) : List Char :=
  if c.toNat < 0x80 then [c.toLower]
  else match foldingRuns.findSome? (·.form? c) with
    | some d => [d]
    | none => (foldings.of? c).getD [c]

/-- The usual form of a character, taken apart; none if it never stands in a name. -/
def fold? (c : Char) : Option (List Char) :=
  if c.toNat < 0x80 then some [c.toLower]
  else if unseen.has c then some []
  else if admitted.has c then some ((decompose c).flatMap foldPart)
  else none

end TagCatalog.Text
