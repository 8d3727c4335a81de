/-!
Quotients and binary numbers to the nearest.

* `divToEven`: the nearest whole number to a quotient; of two that are as near, the even one.
* `keepBits`: the nearest number that so many binary digits can write.
-/

namespace TagCatalog.Number

/-- The nearest whole number to a quotient; of two that are as near, the even one. -/
def divToEven (a b : Nat) : Nat :=
  if b < 2 * (a % b) ∨ b = 2 * (a % b) ∧ a / b % 2 = 1 then a / b + 1 else a / b

/-- The nearest number to `n` that `k` binary digits and zeros after them can write. -/
def keepBits (k n : Nat) : Nat :=
  if n < 1 <<< k then n
  else
    let unit := 1 <<< (n.log2 + 1 - k)
    divToEven n unit * unit

end TagCatalog.Number
