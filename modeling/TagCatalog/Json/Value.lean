/-!
JSON values, and how they are written.

* `Json.compact`: without blanks.
* `Json.pretty`: one item a line, two blanks further in at each level.

Numbers are integers. A value that is well formed but fits no field, such as a fraction, is kept as
`Json.unreadable`, so that a reader can pass over it.
-/

namespace TagCatalog

/-- A JSON value. -/
inductive Json
  | null
  | bool (b : Bool)
  | int (n : Int)
  | text (s : String)
  | list (items : List Json)
  | object (members : List (String × Json))
  /-- A number that is no integer, a string that is no text, or an object with such a key. -/
  | unreadable

namespace Json

instance : Inhabited Json := ⟨null⟩

/-- The number of an unsigned word. -/
def ofNat (n : Nat) : Json := .int n

/-- A value that may be absent. -/
def ofOption {α : Type} (f : α → Json) : Option α → Json
  | some a => f a
  | none => .null

/-- The object without the members that are absent. -/
def ofPresent (members : List (String × Option Json)) : Json :=
  .object (members.filterMap fun m => m.2.map (m.1, ·))

/-! ### Strings -/

/-- The four-digit escape of a character below the space. -/
def controlEscape (c : Char) : String :=
  let digits := String.ofList (Nat.toDigits 16 c.toNat)
  "\\u" ++ "".pushn '0' (4 - digits.length) ++ digits

/-- A character inside a string. -/
def escape (c : Char) : String :=
  if c = '"' then "\\\""
  else if c = '\\' then "\\\\"
  else if c = '\x08' then "\\b"
  else if c = '\x0c' then "\\f"
  else if c = '\n' then "\\n"
  else if c = '\r' then "\\r"
  else if c = '\t' then "\\t"
  else if c.toNat < 0x20 then controlEscape c
  else String.singleton c

/-- A string in quotes. -/
def quote (s : String) : String :=
  "\"" ++ s.foldl (fun done c => done ++ escape c) "" ++ "\""

/-! ### Compact text -/

mutual

/-- The text of a value, without blanks. -/
def compact : Json → String
  | null | unreadable => "null"
  | bool true => "true"
  | bool false => "false"
  | int n => toString n
  | text s => quote s
  | list items => "[" ++ compactItems items ++ "]"
  | object members => "\x7b" ++ compactMembers members ++ "\x7d"

/-- The items of a list, with commas between. -/
def compactItems : List Json → String
  | [] => ""
  | [j] => compact j
  | j :: rest => compact j ++ "," ++ compactItems rest

/-- The members of an object, with commas between. -/
def compactMembers : List (String × Json) → String
  | [] => ""
  | [(key, j)] => quote key ++ ":" ++ compact j
  | (key, j) :: rest => quote key ++ ":" ++ compact j ++ "," ++ compactMembers rest

end

/-! ### Indented text -/

/-- A line break and the blanks of a level. -/
def newline (level : Nat) : String := "\n" ++ "".pushn ' ' (2 * level)

mutual

/-- The text of a value whose opening stands at a level. -/
def prettyAt (level : Nat) : Json → String
  | list [] => "[]"
  | list (j :: rest) =>
    "[" ++ newline (level + 1) ++ prettyAt (level + 1) j ++ prettyItems (level + 1) rest ++
      newline level ++ "]"
  | object [] => "\x7b\x7d"
  | object ((key, j) :: rest) =>
    "\x7b" ++ newline (level + 1) ++ quote key ++ ": " ++ prettyAt (level + 1) j ++
      prettyMembers (level + 1) rest ++ newline level ++ "\x7d"
  | null | unreadable => "null"
  | bool true => "true"
  | bool false => "false"
  | int n => toString n
  | text s => quote s

/-- The items after the first, each on a line of its own. -/
def prettyItems (level : Nat) : List Json → String
  | [] => ""
  | j :: rest => "," ++ newline level ++ prettyAt level j ++ prettyItems level rest

/-- The members after the first, each on a line of its own. -/
def prettyMembers (level : Nat) : List (String × Json) → String
  | [] => ""
  | (key, j) :: rest =>
    "," ++ newline level ++ quote key ++ ": " ++ prettyAt level j ++ prettyMembers level rest

end

/-- The text of a value on lines of its own. -/
def pretty (j : Json) : String := prettyAt 0 j

end Json

end TagCatalog
