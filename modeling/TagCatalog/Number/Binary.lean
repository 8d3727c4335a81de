import TagCatalog.Number.Rounding

/-!
Binary fractions of 53 digits, and their decimal text.

* `Binary.nearest`: the fraction nearest to a quotient.
* `Binary.ofDecimal?`: the fraction for a whole number and a power of ten, as one product or
  quotient of two fractions; none if it is too great.
* `Binary.shortest`: the fewest decimal digits that no other fraction is nearer to.
* `Binary.text`: these digits, with a point or a power of ten.
-/

namespace TagCatalog.Number

/-- A power of ten. -/
def powerOfTen (k : Nat) : Nat := Nat.pow 10 k

/-- A mantissa of 53 digits at most, times a power of two. -/
structure Binary where
  mantissa : Nat
  exponent : Int
  deriving Repr, DecidableEq

namespace Binary

/-- The digits of a mantissa. -/
def mantissaDigits : Nat := 53

/-- The least power of two. -/
def leastExponent : Int := -1074

/-- The greatest power of two. -/
def greatestExponent : Int := 971

/-- The greatest power of ten that is a fraction. -/
def greatestDecimalExponent : Nat := 308

/-! ### Rounding -/

/-- The nearest fraction to a quotient, of two that are as near the one with an even mantissa. -/
def nearest (a b : Nat) : Binary :=
  let guess : Int := (a.log2 : Int) - b.log2 - mantissaDigits
  let atPower (q : Int) : Nat × Nat := (a <<< (-q).toNat, b <<< q.toNat)
  let isWide := (atPower guess).2 <<< mantissaDigits ≤ (atPower guess).1
  let q := max (if isWide then guess + 1 else guess) leastExponent
  let m := divToEven (atPower q).1 (atPower q).2
  if m = 1 <<< mantissaDigits then ⟨1 <<< (mantissaDigits - 1), q + 1⟩ else ⟨m, q⟩

/-- The fraction nearest to a product. -/
def times (x y : Binary) : Binary :=
  let q := x.exponent + y.exponent
  nearest ((x.mantissa * y.mantissa) <<< q.toNat) (1 <<< (-q).toNat)

/-- The fraction nearest to a quotient of fractions. -/
def dividedBy (x y : Binary) : Binary :=
  let q := x.exponent - y.exponent
  nearest (x.mantissa <<< q.toNat) (y.mantissa <<< (-q).toNat)

/-- A fraction within the range, if it is. -/
def inRange? (x : Binary) : Option Binary :=
  if x.exponent ≤ greatestExponent then some x else none

/-- The fraction for a whole number and a power of ten. -/
def ofDecimal? (n : Nat) (exponent : Int) : Option Binary :=
  let x := nearest n 1
  let power (k : Nat) : Binary := nearest (powerOfTen k) 1
  let least : Int := -(greatestDecimalExponent : Int)
  if n = 0 then some x
  else if exponent < least then
    let further := min (least - exponent).toNat greatestDecimalExponent
    some ((x.dividedBy (power greatestDecimalExponent)).dividedBy (power further))
  else if exponent < 0 then some (x.dividedBy (power (-exponent).toNat))
  else if exponent ≤ greatestDecimalExponent then (x.times (power exponent.toNat)).inRange?
  else none

/-! ### Shortest digits -/

/-- Looks for a number of the grid of a power of ten that the fraction is nearest to, and then for
one of each finer grid. -/
def shortestFrom (x : Binary) (k : Int) : (steps : Nat) → Nat × Int
  | 0 => (0, k)
  | steps + 1 =>
    let unit := powerOfTen k.toNat <<< (2 - x.exponent).toNat
    let scaled (n : Nat) : Nat := (n <<< (x.exponent - 2).toNat) * powerOfTen (-k).toNat
    let isLowest := x.mantissa = 1 <<< (mantissaDigits - 1) ∧ leastExponent < x.exponent
    let value := scaled (4 * x.mantissa)
    let low := scaled (4 * x.mantissa - if isLowest then 1 else 2)
    let high := scaled (4 * x.mantissa + 2)
    let isNearest (n : Nat) : Bool :=
      if x.mantissa % 2 = 0 then low ≤ n * unit && n * unit ≤ high
      else low < n * unit && n * unit < high
    let below := value / unit
    match isNearest below, isNearest (below + 1) with
    | true, true => (divToEven value unit, k)
    | true, false => (below, k)
    | false, true => (below + 1, k)
    | false, false => shortestFrom x (k - 1) steps

/-- A number and a power of ten with the fewest digits that stand for no other fraction, and of
those the nearest. -/
def shortest (x : Binary) : Nat × Int := shortestFrom x greatestDecimalExponent 660

/-- A fraction in decimal digits: with a point if that is among the first sixteen of them or at most
five places before, and otherwise with a power of ten. -/
def text (x : Binary) : String :=
  if x.mantissa = 0 then "0.0"
  else
    let (n, k) := x.shortest
    let digits := toString n
    let point := digits.length + k
    let zeros (count : Int) : String := "".pushn '0' count.toNat
    let split (place : Nat) : String :=
      String.ofList (digits.toList.take place) ++ "." ++ String.ofList (digits.toList.drop place)
    if 0 ≤ k ∧ point ≤ 16 then digits ++ zeros k ++ ".0"
    else if 0 < point ∧ point ≤ 16 then split point.toNat
    else if -5 < point ∧ point ≤ 0 then "0." ++ zeros (-point) ++ digits
    else (if digits.length = 1 then digits else split 1) ++ "e" ++ toString (point - 1)

end Binary

end TagCatalog.Number
