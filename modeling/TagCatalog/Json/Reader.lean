import TagCatalog.Bytes.Hex
import TagCatalog.Json.Value

/-!
JSON texts read as values.

* `Json.parse`: the value of a whole text, blanks around it allowed. The text is given as bytes; a
  string in it that is no text makes the value unreadable, not the text ill formed.

Each function reads the front of the bytes and gives back the rest.
-/

namespace TagCatalog.Json

/-- Whether a byte is a blank between tokens. -/
def isBlank (b : UInt8) : Bool := b = 0x20 || b = 0x0A || b = 0x0D || b = 0x09

/-- The bytes after leading blanks. -/
def skipBlanks (bytes : Bytes) : Bytes := bytes.dropWhile isBlank

/-- The bytes after a word, if they begin with it. -/
def word? : (word : Bytes) → Bytes → Option Bytes
  | [], rest => some rest
  | w :: word, b :: rest => if w = b then word? word rest else none
  | _ :: _, [] => none

/-! ### Strings -/

/-- The number written by four hexadecimal digits. -/
def hex4? (a b c d : UInt8) : Option Nat := do
  let a ← Hex.value? a
  let b ← Hex.value? b
  let c ← Hex.value? c
  let d ← Hex.value? d
  return ((a * 16 + b) * 16 + c) * 16 + d

/-- The byte that an escape of one letter stands for. -/
def shortEscape? (b : UInt8) : Option UInt8 :=
  if b = 0x22 then some 0x22
  else if b = 0x5C then some 0x5C
  else if b = 0x2F then some 0x2F
  else if b = 0x62 then some 0x08
  else if b = 0x66 then some 0x0C
  else if b = 0x6E then some 0x0A
  else if b = 0x72 then some 0x0D
  else if b = 0x74 then some 0x09
  else none

/-- Whether a number is the first half of a pair that stands for one character. -/
def isHighHalf (n : Nat) : Bool := 0xD800 ≤ n && n ≤ 0xDBFF

/-- Whether a number is the second half of such a pair. -/
def isLowHalf (n : Nat) : Bool := 0xDC00 ≤ n && n ≤ 0xDFFF

/-- The character of a pair of halves. -/
def joinHalves (high low : Nat) : Char :=
  Char.ofNat (0x10000 + (high - 0xD800) * 1024 + (low - 0xDC00))

/-- The bytes of a character, put on a reversed list. -/
def pushChar (done : Bytes) (c : Char) : Bytes := (Utf8.encode (String.singleton c)).reverse ++ done

/-- The low half escaped at the front of the bytes, and the rest. -/
def lowHalf? : Bytes → Option (Nat × Bytes)
  | 0x5C :: 0x75 :: a :: b :: c :: d :: rest =>
    match hex4? a b c d with
    | some n => if isLowHalf n then some (n, rest) else none
    | none => none
  | _ => none

/-- The bytes of a string up to its closing quote. `done` is what has been read, reversed; it is
absent once a half stood without its partner. -/
def stringBody : (done : Option Bytes) → (skip : Nat) → Bytes → Option (Option Bytes × Bytes)
  | _, _, [] => none
  | done, skip + 1, _ :: rest => stringBody done skip rest
  | done, 0, b :: rest =>
    if b = 0x22 then some (done.map List.reverse, rest)
    else if b < 0x20 then none
    else if b = 0x5C then
      match rest with
      | 0x75 :: u :: v :: w :: x :: tail =>
        match hex4? u v w x with
        | none => none
        | some n =>
          if isHighHalf n then
            match lowHalf? tail with
            | some (low, _) => stringBody (done.map (pushChar · (joinHalves n low))) 11 rest
            | none => stringBody none 5 rest
          else if isLowHalf n then stringBody none 5 rest
          else stringBody (done.map (pushChar · (Char.ofNat n))) 5 rest
      | e :: _ =>
        match shortEscape? e with
        | some c => stringBody (done.map (c :: ·)) 1 rest
        | none => none
      | [] => none
    else stringBody (done.map (b :: ·)) 0 rest

/-- The string whose opening quote has been read: its text, if it is one, and the rest. -/
def string? (bytes : Bytes) : Option (Option String × Bytes) := do
  let (body, rest) ← stringBody (some []) 0 bytes
  return (body.bind Utf8.decode?, rest)

/-! ### Numbers -/

/-- Whether a byte is a decimal digit. -/
def isDigit (b : UInt8) : Bool := 0x30 ≤ b && b ≤ 0x39

/-- The number that decimal digits write. -/
def ofDigits (digits : Bytes) : Nat := digits.foldl (fun n b => n * 10 + (b.toNat - 0x30)) 0

/-- The rest after a fraction, if one stands in front, and whether it does. -/
def fraction? : Bytes → Option (Bool × Bytes)
  | 0x2E :: rest =>
    match rest.dropWhile isDigit with
    | tail => if tail.length = rest.length then none else some (true, tail)
  | rest => some (false, rest)

/-- The rest after a sign, if one stands in front. -/
def skipSign : Bytes → Bytes
  | 0x2B :: rest | 0x2D :: rest => rest
  | rest => rest

/-- The rest after an exponent, if one stands in front, and whether it does. -/
def exponent? : Bytes → Option (Bool × Bytes)
  | e :: rest =>
    if e = 0x65 ∨ e = 0x45 then
      let digits := skipSign rest
      match digits.dropWhile isDigit with
      | tail => if tail.length = digits.length then none else some (true, tail)
    else some (false, e :: rest)
  | [] => some (false, [])

/-- The number whose sign has been read. Zero with a minus sign is no integer. -/
def number? (negative : Bool) (bytes : Bytes) : Option (Json × Bytes) := do
  let digits := bytes.takeWhile isDigit
  let rest := bytes.dropWhile isDigit
  if digits.isEmpty ∨ (digits.head? = some 0x30 ∧ 1 < digits.length) then none
  let (fraction, rest) ← fraction? rest
  let (exponent, rest) ← exponent? rest
  let n := ofDigits digits
  if fraction || exponent || (negative && n = 0) then return (.unreadable, rest)
  else return (.int (if negative then -n else n), rest)

/-! ### Values -/

/-- The object with these members, unless one of its keys is no text. -/
def ofMembers (members : List (Option String × Json)) : Json :=
  match members.mapM fun m => m.1.map (·, m.2) with
  | some members => .object members
  | none => .unreadable

mutual

/-- The value at the front of the bytes. No value has more parts than bytes, so `fuel` above their
number never ends a reading. -/
def value? (fuel : Nat) (bytes : Bytes) : Option (Json × Bytes) :=
  match fuel with
  | 0 => none
  | fuel + 1 =>
    match skipBlanks bytes with
    | [] => none
    | b :: rest =>
      if b = 0x22 then do
        let (s, rest) ← string? rest
        return (match s with | some s => .text s | none => .unreadable, rest)
      else if b = 0x5B then
        match skipBlanks rest with
        | 0x5D :: rest => some (.list [], rest)
        | _ => do
          let (items, rest) ← items? fuel rest
          return (.list items, rest)
      else if b = 0x7B then
        match skipBlanks rest with
        | 0x7D :: rest => some (.object [], rest)
        | _ => do
          let (members, rest) ← members? fuel rest
          return (ofMembers members, rest)
      else if b = 0x2D then number? true rest
      else if isDigit b then number? false (b :: rest)
      else if b = 0x74 then (word? [0x72, 0x75, 0x65] rest).map (.bool true, ·)
      else if b = 0x66 then (word? [0x61, 0x6C, 0x73, 0x65] rest).map (.bool false, ·)
      else if b = 0x6E then (word? [0x75, 0x6C, 0x6C] rest).map (.null, ·)
      else none

/-- The items of a list that has at least one, up to its closing bracket. -/
def items? (fuel : Nat) (bytes : Bytes) : Option (List Json × Bytes) :=
  match fuel with
  | 0 => none
  | fuel + 1 => do
    let (item, rest) ← value? fuel bytes
    match skipBlanks rest with
    | 0x2C :: rest => do
      let (items, rest) ← items? fuel rest
      return (item :: items, rest)
    | 0x5D :: rest => return ([item], rest)
    | _ => none

/-- The members of an object that has at least one, up to its closing brace. -/
def members? (fuel : Nat) (bytes : Bytes) : Option (List (Option String × Json) × Bytes) :=
  match fuel with
  | 0 => none
  | fuel + 1 =>
    match skipBlanks bytes with
    | 0x22 :: rest => do
      let (key, rest) ← string? rest
      match skipBlanks rest with
      | 0x3A :: rest => do
        let (item, rest) ← value? fuel rest
        match skipBlanks rest with
        | 0x2C :: rest => do
          let (members, rest) ← members? fuel rest
          return ((key, item) :: members, rest)
        | 0x7D :: rest => return ([(key, item)], rest)
        | _ => none
      | _ => none
    | _ => none

end

/-- The value of a whole text. -/
def parse (bytes : Bytes) : Option Json := do
  let (value, rest) ← value? (bytes.length + 1) bytes
  if (skipBlanks rest).isEmpty then return value else none

end TagCatalog.Json
