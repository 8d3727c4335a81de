/-!
Whole numbers as people write them: digits of a base, with a plus sign in front if they like.

* `Number.parse?`: reads such a number.
-/

namespace TagCatalog.Number

/-- The value of a digit in a base. -/
def digit? (base : Nat) (c : Char) : Option Nat :=
  let n :=
    if '0' ≤ c ∧ c ≤ '9' then c.toNat - '0'.toNat
    else if 'a' ≤ c ∧ c ≤ 'z' then c.toNat - 'a'.toNat + 10
    else if 'A' ≤ c ∧ c ≤ 'Z' then c.toNat - 'A'.toNat + 10
    else base
  if n < base then some n else none

/-- The value of digits, the highest first, after those that make up `high`. -/
def ofDigits? (base : Nat) : Nat → List Char → Option Nat
  | high, [] => some high
  | high, c :: rest => do ofDigits? base (high * base + (← digit? base c)) rest

/-- The digits after a plus sign, if there is one. -/
def withoutPlus : List Char → List Char
  | '+' :: rest => rest
  | digits => digits

/-- Reads a number below a bound. -/
def parse? (base bound : Nat) (s : String) : Option Nat := do
  let digits := withoutPlus s.toList
  if digits.isEmpty then none
  else
    let n ← ofDigits? base 0 digits
    if n < bound then some n else none

end TagCatalog.Number
