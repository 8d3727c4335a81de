import TagCatalog.Text.Quoted
import TagCatalog.Text.Utf8

/-!
Bytes written as pairs of hexadecimal digits.

* `Hex.encode`: the lower-case digits of a byte string.
* `Hex.decode`: the byte string of a given length, read from digits of either case; what is wrong
  is looked for in the order odd length, wrong length, first bad digit.
-/

namespace TagCatalog.Hex

/-- The lower-case digit of a value below sixteen. -/
def digit (n : Nat) : Char := (Nat.digitChar n)

/-- The two digits of a byte, high one first. -/
def pair (b : UInt8) : List Char := [digit (b.toNat / 16), digit (b.toNat % 16)]

/-- The digits of a byte string. -/
def encode (bytes : Bytes) : String := String.ofList (bytes.flatMap pair)

/-- What keeps digits from being read. -/
inductive Fault
  /-- A digit lacks its partner. -/
  | oddLength
  /-- The digits are not as many as wanted. -/
  | wrongLength
  /-- The byte at a position is no digit. -/
  | badDigit (byte : UInt8) (position : Nat)
  deriving Repr, DecidableEq

/-- The wording of a fault; a byte is shown as the character of its number. -/
def Fault.message : Fault → String
  | .oddLength => "Odd number of digits"
  | .wrongLength => "Invalid string length"
  | .badDigit byte position =>
    "Invalid character " ++ Text.quotedChar (Char.ofNat byte.toNat) ++ " at position " ++
      toString position

/-- The value of a digit of either case. -/
def value? (b : UInt8) : Option Nat :=
  if 0x30 ≤ b ∧ b ≤ 0x39 then some (b.toNat - 0x30)
  else if 0x61 ≤ b ∧ b ≤ 0x66 then some (b.toNat - 0x61 + 10)
  else if 0x41 ≤ b ∧ b ≤ 0x46 then some (b.toNat - 0x41 + 10)
  else none

/-- The value of the digit at a position. -/
def value (b : UInt8) (position : Nat) : Except Fault Nat :=
  match value? b with
  | some n => .ok n
  | none => .error (.badDigit b position)

/-- The bytes written by pairs of digits that start at a position. -/
def pairs (position : Nat) : Bytes → Except Fault Bytes
  | [] => .ok []
  | [_] => .error .oddLength
  | high :: low :: rest => do
    let h ← value high position
    let l ← value low (position + 1)
    let bytes ← pairs (position + 2) rest
    .ok (UInt8.ofNat (h * 16 + l) :: bytes)

/-- The `length` bytes written by a text. -/
def decode (length : Nat) (s : String) : Except Fault Bytes :=
  let digits := Utf8.encode s
  if digits.length % 2 ≠ 0 then .error .oddLength
  else if digits.length / 2 ≠ length then .error .wrongLength
  else pairs 0 digits

/-- There are two digits for each byte. -/
theorem length_of_pairs {position : Nat} {digits bytes : Bytes}
    (h : pairs position digits = .ok bytes) : digits.length = 2 * bytes.length := by
  fun_induction pairs position digits generalizing bytes with
  | case1 => cases h; rfl
  | case2 => cases h
  | case3 position high low rest ih =>
    cases hh : value high position with
    | error e => simp [hh, bind, Except.bind] at h
    | ok a =>
      cases hl : value low (position + 1) with
      | error e => simp [hh, hl, bind, Except.bind] at h
      | ok b =>
        cases hr : pairs (position + 2) rest with
        | error e => simp [hh, hl, hr, bind, Except.bind] at h
        | ok tail =>
          simp only [hh, hl, hr, bind, Except.bind, Except.ok.injEq] at h
          subst h
          have := ih hr
          simp only [List.length_cons]
          omega

/-- The bytes read are as many as are wanted. -/
theorem length_of_decode {length : Nat} {s : String} {bytes : Bytes}
    (h : decode length s = .ok bytes) : bytes.length = length := by
  simp only [decode] at h
  split at h
  · cases h
  · split at h
    · cases h
    · have := length_of_pairs h
      omega

end TagCatalog.Hex
