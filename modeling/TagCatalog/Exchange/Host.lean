import TagCatalog.Bytes.LittleEndian
import TagCatalog.Exchange.DomainName
import TagCatalog.Text.Percent

/-!
Hosts in addresses.

* `Host.parse?`: the host of an address in which hosts are names: a name, four numbers that fit into
  32 bits together, or eight pieces of 16 bits in brackets.
* `Host.parseAny?`: the host of an address in which a host may be any text.
-/

namespace TagCatalog.Host

/-- Whether a character never stands in a host. -/
def isForbidden (c : Char) : Bool :=
  c ∈ ['\x00', '\t', '\n', '\r', ' ', '#', '/', ':', '<', '>', '?', '@', '[', '\\', ']', '^', '|']

/-- Whether a character never stands in a name. -/
def isForbiddenInName (c : Char) : Bool :=
  isForbidden c || c.toNat < 0x20 || c = '%' || c.toNat = 0x7f

/-! ### Four numbers -/

/-- The parts of a name, without an empty one at its end. -/
def labels (name : String) : List String :=
  match (name.splitOn ".").reverse with
  | "" :: l :: rest => (l :: rest).reverse
  | l => l.reverse

/-- A number in base ten, or in base eight or sixteen as its beginning tells. -/
def part? (s : String) : Option Nat :=
  match s.toList with
  | [] => none
  | '0' :: x :: rest =>
    if x = 'x' ∨ x = 'X' then Number.ofDigits? 16 0 rest else Number.ofDigits? 8 0 (x :: rest)
  | digits => Number.ofDigits? 10 0 digits

/-- Whether the last part of a name makes it a number. -/
def endsInNumber (name : String) : Bool :=
  match (labels name).getLast? with
  | none => false
  | some l => (l ≠ "" && l.toList.all Char.isDigit) ||
      ((l.startsWith "0x" || l.startsWith "0X") && (part? l).isSome)

/-- The number that the parts of a name make up: of the last part as many bytes as the other parts
leave. -/
def ofParts? : Nat → List Nat → Option Nat
  | _, [] => none
  | bytes, [n] => if n < byteCapacity bytes then some n else none
  | bytes + 1, n :: rest => do
    let low ← ofParts? bytes rest
    if n < 256 then some (n * byteCapacity bytes + low) else none
  | 0, _ => none

/-- The number that a name stands for. -/
def number? (name : String) : Option Nat := do
  let parts ← (labels name).mapM part?
  if parts.length ≤ 4 then ofParts? 4 parts else none

/-- A number of 32 bits, byte by byte. -/
def dotted (n : Nat) : String :=
  ".".intercalate ((LittleEndian.encode 4 n).reverse.map fun b => toString b.toNat)

/-! ### Eight pieces -/

/-- The number in four hexadecimal digits at most. -/
def piece? (p : String) : Option Nat :=
  if p.isEmpty ∨ 4 < p.length then none else Number.ofDigits? 16 0 p.toList

/-- A number below 256 without needless zeros. -/
def byte? (p : String) : Option Nat :=
  if p.isEmpty then none
  else (Number.ofDigits? 10 0 p.toList).filter fun n => n < 256 && toString n = p

/-- The two pieces that four numbers stand for. -/
def dottedPieces? (s : String) : Option (List Nat) :=
  match (s.splitOn ".").mapM byte? with
  | some [a, b, c, d] => some [a * 256 + b, c * 256 + d]
  | _ => none

/-- The pieces of a text with colons between, of which the last may be four numbers if the text ends
there. -/
def pieces? (isEnd : Bool) (s : String) : Option (List Nat) :=
  let rec read : List String → Option (List Nat)
    | [] => some []
    | [p] => ((piece? p).map ([·])).or (if isEnd then dottedPieces? p else none)
    | p :: rest => do return (← piece? p) :: (← read rest)
  if s.isEmpty then some [] else read (s.splitOn ":")

/-- The eight pieces of a text, which has a double colon in the place of zeros, or has them all. -/
def eight? (s : String) : Option (List Nat) :=
  match s.splitOn "::" with
  | [all] => (pieces? true all).filter (·.length = 8)
  | [front, back] => do
    let front ← pieces? false front
    let back ← pieces? true back
    let left := 8 - (front.length + back.length)
    if left = 0 then none else some (front ++ List.replicate left 0 ++ back)
  | _ => none

/-- The number of zeros at the front. -/
def zeros (pieces : List Nat) : Nat := (pieces.takeWhile (· = 0)).length

/-- The place at which the most zeros follow one another, the first of such places. -/
def zeroPlace (pieces : List Nat) : Nat :=
  (List.range pieces.length).foldl (fun best i =>
    if zeros (pieces.drop best) < zeros (pieces.drop i) then i else best) 0

/-- Pieces with colons between. -/
def colons (pieces : List Nat) : String :=
  ":".intercalate (pieces.map fun n => String.ofList (Nat.toDigits 16 n))

/-- Pieces as text, with a double colon in the place of the most zeros that follow one another, if
those are more than one. -/
def pieceText (pieces : List Nat) : String :=
  let place := zeroPlace pieces
  let count := zeros (pieces.drop place)
  if count < 2 then colons pieces
  else colons (pieces.take place) ++ "::" ++ colons (pieces.drop (place + count))

/-- The host in brackets. -/
def bracketed? (s : List Char) : Option String :=
  match s.reverse with
  | ']' :: inside =>
    (eight? (String.ofList inside.reverse)).map fun pieces => "[" ++ pieceText pieces ++ "]"
  | _ => none

/-! ### Hosts -/

/-- The host of an address in which hosts are names. -/
def parse? (s : List Char) : Option String :=
  match s with
  | '[' :: rest => bracketed? rest
  | _ => do
    let name := String.ofList (← DomainName.toAscii? (← Text.percentDecode? s).toList)
    if name.isEmpty || name.toList.any isForbiddenInName then none
    else if endsInNumber name then (number? name).map dotted
    else some name

/-- The host of an address in which a host may be any text. -/
def parseAny? (s : List Char) : Option String :=
  match s with
  | '[' :: rest => bracketed? rest
  | _ =>
    if s.any isForbidden then none
    else some (String.ofList (Text.percentWhere Text.isPrintable s))

end TagCatalog.Host
