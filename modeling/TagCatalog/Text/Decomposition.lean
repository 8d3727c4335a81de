import TagCatalog.Text.Decomposition.Table

/-!
Characters that are written as others together: a letter with its marks, a syllable with its parts,
or another name for the same character.

* `Text.decompose`: the characters, taken apart no further, that a character stands for.
* `Text.pair?`: the character that stands for two in a row.
-/

namespace TagCatalog.Text

/-! ### Syllables -/

/-- The first leading consonant of a syllable. -/
def firstLead : Nat := 0x1100

/-- The first vowel of a syllable. -/
def firstVowel : Nat := 0x1161

/-- The place before the first trailing consonant of a syllable. -/
def beforeTrail : Nat := 0x11a7

/-- The first syllable. -/
def firstSyllable : Nat := 0xac00

/-- The number of leading consonants. -/
def leads : Nat := 19

/-- The number of vowels. -/
def vowels : Nat := 21

/-- The number of trailing consonants, or none. -/
def trails : Nat := 28

/-- The parts of a syllable. -/
def syllableParts? (c : Char) : Option (List Char) :=
  let n := c.toNat - firstSyllable
  if c.toNat < firstSyllable ∨ leads * vowels * trails ≤ n then none
  else
    let front := [firstLead + n / trails / vowels, firstVowel + n / trails % vowels]
    let back := if n % trails = 0 then [] else [beforeTrail + n % trails]
    some ((front ++ back).map Char.ofNat)

/-- The syllable of two parts, of which the first may be a syllable without trailing consonant. -/
def syllable? (c d : Char) : Option Char :=
  let lead := c.toNat - firstLead
  let vowel := d.toNat - firstVowel
  let syllable := c.toNat - firstSyllable
  let trail := d.toNat - beforeTrail
  if firstLead ≤ c.toNat ∧ lead < leads ∧ firstVowel ≤ d.toNat ∧ vowel < vowels then
    some (Char.ofNat (firstSyllable + (lead * vowels + vowel) * trails))
  else if firstSyllable ≤ c.toNat ∧ syllable < leads * vowels * trails ∧ syllable % trails = 0 ∧
      beforeTrail < d.toNat ∧ trail < trails then
    some (Char.ofNat (c.toNat + trail))
  else none

/-! ### All characters -/

/-- What a character stands for, taken apart `depth` times at most. -/
def decomposeWithin : (depth : Nat) → Char → List Char
  | 0, c => [c]
  | depth + 1, c =>
    match decompositions.of? c with
    | some parts => parts.flatMap (decomposeWithin depth)
    | none => [c]

/-- The characters, taken apart no further, that a character stands for. None is taken apart more
than three times. -/
def decompose (c : Char) : List Char :=
  if c.toNat < 0xc0 then [c]
  else (syllableParts? c).getD (decomposeWithin 3 c)

/-- The character that stands for two in a row. -/
def pair? (c d : Char) : Option Char :=
  match syllable? c d with
  | some s => some s
  | none =>
    let isPair (row : Nat × List Nat) : Bool :=
      row.2 = [c.toNat, d.toNat] && !unpaired.has (Char.ofNat row.1)
    (decompositions.find? isPair).map fun row => Char.ofNat row.1

end TagCatalog.Text
