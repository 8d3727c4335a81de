import TagCatalog.Bytes.Hex
import TagCatalog.Json.Flaw
import TagCatalog.Json.Reader
import TagCatalog.Number.Binary

/-!
Reading JSON step by step, so that it is known where a text goes wrong.

* `Scan`: a reading that keeps its place, and ends with a diagnosis at the first flaw.
* `Scan.string`, `Scan.number`: strings and numbers.
* `Scan.passValue`: a value of any type, of which nothing is kept.
-/

namespace TagCatalog.Json

/-- How far a text has been read. -/
structure Cursor where
  rest : Bytes
  /-- The number of the line, from one. -/
  line : Nat := 1
  /-- The bytes of the line that have been read. -/
  column : Nat := 0
  deriving Repr, DecidableEq

/-- The place after one more byte, if there is one. -/
def Cursor.next (c : Cursor) : Cursor :=
  match c.rest with
  | [] => c
  | b :: rest =>
    if b = 0x0A then ⟨rest, c.line + 1, 0⟩ else { c with rest, column := c.column + 1 }

/-- A reading that keeps its place and ends at the first flaw. -/
abbrev Scan (α : Type) := StateT Cursor (Except Diagnosis) α

namespace Scan

/-! ### Bytes -/

/-- Ends with a flaw at what has been read. -/
def fail {α : Type} (flaw : Flaw) : Scan α := fun c => .error ⟨flaw, c.line, c.column⟩

/-- Ends with a flaw at the next byte. -/
def failNext {α : Type} (flaw : Flaw) : Scan α := fun c => fail flaw c.next

/-- The next byte, which is not read yet. -/
def peek : Scan (Option UInt8) := fun c => .ok (c.rest.head?, c)

/-- Reads the next byte, if there is one. -/
def skip : Scan Unit := fun c => .ok ((), c.next)

/-- Reads so many bytes. -/
def skipMany : (n : Nat) → Scan Unit
  | 0 => return
  | n + 1 => do
    skip
    skipMany n

/-- Reads the next byte and gives it back. -/
def next : Scan (Option UInt8) := do
  let b ← peek
  skip
  return b

/-- Reads the bytes in front that are of a kind, and gives them back. -/
def takeWhile (isKind : UInt8 → Bool) : Scan Bytes := do
  let bytes := (← get).rest.takeWhile isKind
  skipMany bytes.length
  return bytes

/-- The first byte after blanks, which is not read yet. -/
def peekToken : Scan (Option UInt8) := do
  discard (takeWhile isBlank)
  peek

/-- Reads the other letters of a word. -/
def word : (letters : Bytes) → Scan Unit
  | [] => return
  | letter :: letters => do
    match ← next with
    | none => fail .valueEnds
    | some b => if b = letter then word letters else fail .noWord

/-- Reads `null`, of which the first letter is there. -/
def null : Scan Unit := do
  skip
  word [0x75, 0x6C, 0x6C]

/-- Reads `true`, of which the first letter is there. -/
def yes : Scan Unit := do
  skip
  word [0x72, 0x75, 0x65]

/-- Reads `false`, of which the first letter is there. -/
def no : Scan Unit := do
  skip
  word [0x61, 0x6C, 0x73, 0x65]

/-! ### Strings -/

/-- Reads four hexadecimal digits. -/
def halfOfEscape : Scan Nat := do
  match (← get).rest with
  | a :: b :: c :: d :: _ =>
    skipMany 4
    match hex4? a b c d with
    | some n => return n
    | none => fail .badEscape
  | rest =>
    skipMany rest.length
    fail .stringEnds

/-- Reads a byte that is to follow the first half of a character. -/
def secondHalfByte (wanted : UInt8) : Scan Unit := do
  match ← peek with
  | none => fail .stringEnds
  | some b =>
    skip
    if b = wanted then return else fail .noSecondHalf

/-- Reads an escape, whose backslash has been read, for a character by its number. -/
def numberEscape : Scan Char := do
  let n ← halfOfEscape
  if isLowHalf n then fail .loneHalf
  else if isHighHalf n then
    secondHalfByte 0x5C
    secondHalfByte 0x75
    let low ← halfOfEscape
    if isLowHalf low then return joinHalves n low else fail .loneHalf
  else return Char.ofNat n

/-- Reads an escape, whose backslash has been read, and puts its bytes on a reversed list. -/
def escape (done : Bytes) : Scan Bytes := do
  match ← next with
  | none => fail .stringEnds
  | some b =>
    if b = 0x75 then return pushChar done (← numberEscape)
    else match shortEscape? b with
      | some e => return e :: done
      | none => fail .badEscape

/-- Reads a string up to its closing quote. What has been read of it is `done`, reversed; as no step
reads less than a byte, `steps` are as many as there are bytes. -/
def stringFrom (done : Bytes) : (steps : Nat) → Scan Bytes
  | 0 => fail .stringEnds
  | steps + 1 => do
    match ← next with
    | none => fail .stringEnds
    | some b =>
      if b = 0x22 then return done.reverse
      else if b = 0x5C then stringFrom (← escape done) steps
      else if b < 0x20 then fail .control
      else stringFrom (b :: done) steps

/-- Reads a string, whose opening quote is there. -/
def string : Scan String := do
  skip
  return Utf8.lossy (← stringFrom [] ((← get).rest.length + 1))

/-- Passes over an escape, which may be of half a character. -/
def passEscape : Scan Unit := do
  match ← next with
  | none => fail .stringEnds
  | some b =>
    if b = 0x75 then discard halfOfEscape
    else if (shortEscape? b).isSome then return
    else fail .badEscape

/-- Passes over a string up to its closing quote. -/
def passStringFrom : (steps : Nat) → Scan Unit
  | 0 => fail .stringEnds
  | steps + 1 => do
    match ← peek with
    | none => fail .stringEnds
    | some b =>
      if b = 0x22 then skip
      else if b = 0x5C then
        skip
        passEscape
        passStringFrom steps
      else if b < 0x20 then fail .control
      else
        skip
        passStringFrom steps

/-- Passes over a string, whose opening quote is there. -/
def passString : Scan Unit := do
  skip
  passStringFrom ((← get).rest.length + 1)

/-! ### Numbers -/

/-- A number. -/
inductive Found
  | whole (n : Int)
  | fraction (isNegative : Bool) (x : Number.Binary)

/-- The wording for a number. -/
def Found.message : Found → String
  | whole n => "integer \x60" ++ toString n ++ "\x60"
  | fraction isNegative x =>
    "floating point \x60" ++ (if isNegative then "-" else "") ++ x.text ++ "\x60"

/-- A number with digits put behind it, as many as keep it below a bound, and how many these are. -/
def append (bound n : Nat) : (digits : Bytes) → Nat × Nat
  | [] => (n, 0)
  | d :: digits =>
    let longer := 10 * n + (d.toNat - 0x30)
    if longer < bound then
      let (n, count) := append bound longer digits
      (n, count + 1)
    else (n, 0)

/-- A fraction for a whole number and a power of ten. -/
def scaled (isNegative : Bool) (n : Nat) (exponent : Int) : Scan Found :=
  match Number.Binary.ofDecimal? n exponent with
  | some x => return .fraction isNegative x
  | none => fail .greatNumber

/-- Reads a power of ten, whose sign and digits follow, as a factor of a number. -/
def power (isNegative : Bool) (n : Nat) (exponent : Int) : Scan Found := do
  let sign ← peek
  if sign = some 0x2B ∨ sign = some 0x2D then skip
  match ← peek with
  | none => fail .valueEnds
  | some b =>
    if !isDigit b then
      skip
      fail .badNumber
    else
      let digits := (← get).rest.takeWhile isDigit
      let (p, count) := append (UInt32.size / 2) 0 digits
      if count < digits.length ∧ n ≠ 0 ∧ sign ≠ some 0x2D then
        skipMany (count + 1)
        fail .greatNumber
      else
        skipMany digits.length
        if count < digits.length then scaled isNegative 0 0
        else scaled isNegative n (if sign = some 0x2D then exponent - p else exponent + p)

/-- Reads the places behind a point, and a power of ten if one follows. -/
def places (isNegative : Bool) (n : Nat) (exponent : Int) : Scan Found := do
  let digits ← takeWhile isDigit
  if digits.isEmpty then
    if (← peek).isNone then fail .valueEnds else failNext .badNumber
  else
    let (n, count) := append UInt64.size n digits
    let exponent := exponent - count
    let b ← peek
    if b = some 0x65 ∨ b = some 0x45 then
      skip
      power isNegative n exponent
    else scaled isNegative n exponent

/-- Reads a number whose sign has been read. -/
def numberAfter (isNegative : Bool) : Scan Found := do
  match ← peek with
  | none => fail .valueEnds
  | some b =>
    if !isDigit b then
      skip
      fail .badNumber
    else
      let digits := (← get).rest.takeWhile isDigit
      if b = 0x30 ∧ 1 < digits.length then
        skip
        failNext .badNumber
      else
        skipMany digits.length
        let (n, count) := append UInt64.size 0 digits
        let exponent := digits.length - count
        match ← peek with
        | some 0x2E =>
          skip
          places isNegative n exponent
        | some 0x65 | some 0x45 =>
          skip
          power isNegative n exponent
        | _ =>
          let isWhole := exponent = 0 ∧ (!isNegative ∨ (n ≠ 0 ∧ n ≤ UInt64.size / 2))
          if isWhole then return .whole (if isNegative then -n else n)
          else scaled isNegative n exponent

/-- Reads a number, whose sign or first digit is there. -/
def number : Scan Found := do
  if (← peek) = some 0x2D then
    skip
    numberAfter true
  else numberAfter false

/-- Passes over digits, of which there has to be one. -/
def passDigits : Scan Unit := do
  if (← takeWhile isDigit).isEmpty then failNext .badNumber

/-- Passes over a power of ten, if one follows. -/
def passPower : Scan Unit := do
  let b ← peek
  if b = some 0x65 ∨ b = some 0x45 then
    skip
    let sign ← peek
    if sign = some 0x2B ∨ sign = some 0x2D then skip
    passDigits

/-- Passes over a number whose sign has been read. -/
def passNumber : Scan Unit := do
  let digits := (← get).rest.takeWhile isDigit
  if digits.head? = some 0x30 ∧ 1 < digits.length then
    skip
    failNext .badNumber
  else
    passDigits
    if (← peek) = some 0x2E then
      skip
      passDigits
    passPower

/-! ### Values of any type -/

mutual

/-- Passes over a value. No value has more parts than bytes, so `steps` above their number never end
a reading. -/
def pass : (steps : Nat) → Scan Unit
  | 0 => fail .noValue
  | steps + 1 => do
    match ← peekToken with
    | none => fail .valueEnds
    | some b =>
      if b = 0x2D then
        skip
        passNumber
      else if isDigit b then passNumber
      else if b = 0x22 then passString
      else if b = 0x5B then
        skip
        match ← peekToken with
        | none => fail .listEnds
        | some 0x5D => skip
        | _ => passItems steps
      else if b = 0x7B then
        skip
        match ← peekToken with
        | none => fail .objectEnds
        | some 0x7D => skip
        | _ => passMembers steps
      else if b = 0x6E then null
      else if b = 0x74 then yes
      else if b = 0x66 then no
      else failNext .noValue

/-- Passes over the items of a list that has at least one, and its end. -/
def passItems : (steps : Nat) → Scan Unit
  | 0 => fail .noValue
  | steps + 1 => do
    pass steps
    match ← peekToken with
    | none => fail .listEnds
    | some 0x5D => skip
    | some 0x2C =>
      skip
      passItems steps
    | _ => failNext .noListComma

/-- Passes over the members of an object that has at least one, and its end. -/
def passMembers : (steps : Nat) → Scan Unit
  | 0 => fail .noValue
  | steps + 1 => do
    match ← peekToken with
    | none => fail .objectEnds
    | some 0x22 =>
      passString
      match ← peekToken with
      | none => fail .objectEnds
      | some 0x3A =>
        skip
        pass steps
        match ← peekToken with
        | none => fail .objectEnds
        | some 0x7D => skip
        | some 0x2C =>
          skip
          passMembers steps
        | _ => failNext .noObjectComma
      | _ => failNext .noColon
    | _ => failNext .keyIsNoString

end

/-- Passes over a value of any type. -/
def passValue : Scan Unit := do pass (2 * (← get).rest.length + 2)

end Scan

end TagCatalog.Json
