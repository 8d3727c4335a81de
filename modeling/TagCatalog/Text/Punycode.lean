import TagCatalog.Number.Reading

/-!
Text written with the letters and digits of ASCII alone: first the characters of ASCII, then, for
each other character in ascending order, how far it lies from the one before it. Distances are
numbers of base 36 whose digits tell where the number ends; how many values of a digit do so is
adapted to the distances so far.

* `Punycode.encode`: a text so written.
* `Punycode.decode?`: reads such a text.
-/

namespace TagCatalog.Punycode

/-- A digit: letters stand for the lower values. -/
def digitChar (d : Nat) : Char :=
  if d < 26 then Char.ofNat ('a'.toNat + d) else Char.ofNat ('0'.toNat + (d - 26))

/-- The value of a digit. -/
def digit? (c : Char) : Option Nat :=
  if 'a' ≤ c ∧ c ≤ 'z' then some (c.toNat - 'a'.toNat)
  else if '0' ≤ c ∧ c ≤ '9' then some (c.toNat - '0'.toNat + 26)
  else none

/-! ### Distances -/

/-- How many values of the digit at a place do not end a number; places count in steps of 36. -/
def threshold (bias place : Nat) : Nat := min (max (place - bias) 1) 26

/-- Some value of a digit ends a number. -/
theorem threshold_pos (bias place : Nat) : 0 < threshold bias place := by
  simp only [threshold]
  omega

/-- The digits of a distance, the lowest first. -/
def digits (bias place n : Nat) : List Char :=
  let t := threshold bias place
  if n < t then [digitChar n]
  else digitChar (t + (n - t) % (36 - t)) :: digits bias (place + 36) ((n - t) / (36 - t))
termination_by n
decreasing_by
  have := threshold_pos bias place
  have := Nat.div_le_self (n - threshold bias place) (36 - threshold bias place)
  omega

/-- Reads a distance off the front of a text. Its digits count `weight` times, and more from one to
the next, but never as much as 32 bits do; the distance so far is `n`. What is left is shorter. -/
def readDistance? (bias place weight n : Nat) :
    (s : List Char) → Option (Nat × { rest : List Char // rest.length < s.length })
  | [] => none
  | c :: rest =>
    match digit? c with
    | none => none
    | some d =>
      let n := n + d * weight
      let t := threshold bias place
      let weight := weight * (36 - t)
      if d < t then some (n, ⟨rest, by simp⟩)
      else if UInt32.size ≤ weight then none
      else
        (readDistance? bias (place + 36) weight n rest).map fun r =>
          (r.1, ⟨r.2.val, Nat.lt_succ_of_lt r.2.property⟩)

/-- A number divided by 35 until it is small, with a higher bias each time. -/
def settle (bias n : Nat) : Nat :=
  if 455 < n then settle (bias + 36) (n / 35) else bias + 36 * n / (n + 38)
termination_by n
decreasing_by omega

/-- The bias after a distance, with `count` characters placed. -/
def adapt (isFirst : Bool) (distance count : Nat) : Nat :=
  let n := if isFirst then distance / 700 else distance / 2
  settle 0 (n + n / count)

/-! ### Writing -/

/-- How far the writing of a text has come. -/
structure Progress where
  written : List Char := []
  /-- The distance since the last character written. -/
  distance : Nat := 0
  bias : Nat := 72
  /-- The number of characters written. -/
  count : Nat

/-- Passes a character of the text while those of number `n` are written. -/
def Progress.pass (ascii n : Nat) (p : Progress) (c : Char) : Progress :=
  if c.toNat < n then { p with distance := p.distance + 1 }
  else if c.toNat = n then
    { written := p.written ++ digits p.bias 36 p.distance
      distance := 0
      bias := adapt (p.count = ascii) p.distance (p.count + 1)
      count := p.count + 1 }
  else p

/-- Writes the characters of the numbers to come, of which those below `next` are written. -/
def writeFrom (s : List Char) (ascii next : Nat) (p : Progress) : List Nat → List Char
  | [] => p.written
  | n :: rest =>
    let p := { p with distance := p.distance + (n - next) * (p.count + 1) }
    let p := s.foldl (Progress.pass ascii n) p
    writeFrom s ascii (n + 1) { p with distance := p.distance + 1 } rest

/-- A text written with letters and digits of ASCII. -/
def encode (s : List Char) : List Char :=
  let ascii := s.filter (·.toNat < 0x80)
  let others := (s.filter (0x80 ≤ ·.toNat)).map Char.toNat
  let numbers := (others.mergeSort (· ≤ ·)).eraseDups
  ascii ++ (if ascii.isEmpty then [] else ['-']) ++
    writeFrom s ascii.length 0x80 { count := ascii.length } numbers

/-! ### Reading -/

/-- Places the characters that distances tell among those of `placed`, after the one of number `n`
at the place before `place`. -/
def placeFrom? (bias n place : Nat) (placed : List Char) (s : List Char) : Option (List Char) :=
  if s.isEmpty then some placed
  else match readDistance? bias 36 1 0 s with
    | none => none
    | some (distance, ⟨rest, _⟩) =>
      let count := placed.length + 1
      let next := n + (place + distance) / count
      let here := (place + distance) % count
      if next.isValidChar then
        placeFrom? (adapt (place = 0) distance count) next (here + 1)
          (placed.insertIdx here (Char.ofNat next)) rest
      else none
termination_by s.length

/-- Reads a text written with letters and digits of ASCII. -/
def decode? (s : List Char) : Option (List Char) :=
  let others := (s.reverse.takeWhile (· ≠ '-')).reverse
  let ascii := s.take (s.length - others.length - 1)
  if ascii.any (0x80 ≤ ·.toNat) then none
  else placeFrom? 72 0x80 0 ascii others

end TagCatalog.Punycode
