import TagCatalog.Text.Composition
import TagCatalog.Text.Direction
import TagCatalog.Text.Folding
import TagCatalog.Text.Joining
import TagCatalog.Text.Pieces
import TagCatalog.Text.Punycode

/-!
Names of hosts, which may be words of any script. A name is sent in ASCII: each label of it, that
is, each piece between dots, in its usual form and written with letters and digits.

* `DomainName.toAscii?`: a name in ASCII; none if it is no name.
-/

namespace TagCatalog.DomainName

/-- The usual form of a text; none if a character of it never stands in a name. -/
def usual? (s : List Char) : Option (List Char) := do
  return Text.compose (← s.mapM Text.fold?).flatten

/-- What a label begins with that stands for a word of another script. -/
def mark : List Char := ['x', 'n', '-', '-']

/-- The most characters of a label that is written with letters and digits. -/
def longest : Nat := 1000

/-- The most letters and digits for a label. -/
def longestWritten : Nat := 2000

/-- The word that a label stands for: itself, or what its letters and digits tell, which must be in
its usual form and not of ASCII alone. -/
def word? (label : List Char) : Option (List Char) :=
  if mark.isPrefixOf label then do
    let written := label.drop mark.length
    if written.isEmpty ∨ written.getLast? = some '-' ∨ longestWritten < written.length then none
    else
      let word ← Punycode.decode? written
      if usual? word = some word then word else none
  else some label

/-- Whether a word has only characters of ASCII. -/
def isAscii (word : List Char) : Bool := word.all (·.toNat < 0x80)

/-- Whether a word may be a label: it begins with no mark, the signs that join and part characters
are seen, and it is not too long. -/
def isLabel (word : List Char) : Bool :=
  isAscii word ||
    (!word.head?.any Text.isMark && Text.joinersFit [] word && word.length ≤ longest)

/-- A label for a word: the word itself, or its letters and digits behind the mark. -/
def labelOf (word : List Char) : List Char :=
  if isAscii word then word else mark ++ Punycode.encode word

/-- Whether the words of a name stand in one order: if any runs from right to left, none depends on
the text around it. -/
def standInOrder (words : List (List Char)) : Bool :=
  words.all Text.runsOneWay || words.all (·.all fun c => !(Text.direction c).isRightToLeft)

/-- A name in ASCII. -/
def toAscii? (s : List Char) : Option (List Char) :=
  let small := s.map Char.toLower
  if isAscii s && !(Text.pieces (· = '.') small).any mark.isPrefixOf then some small
  else do
    let words ← (Text.pieces (· = '.') (← usual? s)).mapM word?
    if words.all isLabel && standInOrder words then
      some (List.intercalate ['.'] (words.map labelOf))
    else none

end TagCatalog.DomainName
