import TagCatalog.Number.Reading
import TagCatalog.Text.Blank

/-!
The bits of the fields of a response, as the code defines them and as the documents tell them.

* `definedBit?`: the bit in a line of code that defines a constant.
* `documentedBit?`: the bit in a row of a table.
* `disagreement?`: where the two differ, or one is lacking.
-/

namespace TagCatalog.Upkeep

/-- A number in base two or sixteen as its beginning tells, else in base ten; underscores do not
count. -/
def literal? (s : String) : Option Nat :=
  match s.toList.filter (· ≠ '_') with
  | '0' :: 'b' :: digits => Number.parse? 2 256 (String.ofList digits)
  | '0' :: 'x' :: digits => Number.parse? 16 256 (String.ofList digits)
  | digits => Number.parse? 10 256 (String.ofList digits)

/-- Whether a text holds another. -/
def holds (part : List Char) : List Char → Bool
  | [] => part.isEmpty
  | c :: rest => part.isPrefixOf (c :: rest) || holds part rest

/-- The lines of a text. -/
def linesOf (s : String) : List String := s.splitOn "\n"

/-- The bit that the first line which defines a constant gives it. -/
def definedBit? (code name : String) : Option Nat := do
  let line ← (linesOf code).find? fun l => holds ("const " ++ name ++ ":").toList l.toList
  let value ← (line.splitOn "=")[1]?
  literal? (Text.trim (Text.trimEndWhere (· = ';') (Text.trim value)))

/-- A cell of a table without marks of code around it. -/
def unmarked (cell : String) : String := Text.trimWhere (· = '\x60') (Text.trim cell)

/-- The bit in the first row for a field that holds one. -/
def documentedBit? (document name : String) : Option Nat :=
  (linesOf document).findSome? fun line =>
    match line.splitOn "|" with
    | _ :: field :: bit :: _ => if unmarked field = name then literal? (unmarked bit) else none
    | _ => none

/-- The constants, and the fields whose bits they are. -/
def fieldConstants : List (String × String) :=
  [("HAS_IDS", "ids"), ("HAS_HASHES", "hashes"), ("HAS_TAGS", "tags"),
    ("HAS_ATTRIBUTES", "attributes")]

/-- Where the code and the documents differ. -/
inductive Disagreement
  | undefined (constant : String)
  | undocumented (field : String)
  | differ (constant : String) (defined documented : Nat)
  deriving Repr, DecidableEq

/-- A byte in base sixteen. -/
def byteText (n : Nat) : String :=
  let digits := String.ofList (Nat.toDigits 16 n)
  "0x" ++ "".pushn '0' (2 - digits.length) ++ digits

/-- The wording of a difference. -/
def Disagreement.message : Disagreement → String
  | undefined constant => constant ++ " not found in header.rs"
  | undocumented field => "'" ++ field ++ "' row not found in README flag table"
  | differ constant defined documented =>
    constant ++ " is " ++ byteText defined ++ " in header.rs but README documents " ++
      byteText documented

/-- Where the code and the document differ on a constant. -/
def disagreementOn? (code document : String) (entry : String × String) : Option Disagreement :=
  match definedBit? code entry.1, documentedBit? document entry.2 with
  | none, _ => some (.undefined entry.1)
  | some _, none => some (.undocumented entry.2)
  | some m, some n => if m = n then none else some (.differ entry.1 m n)

/-- The first constant on which the code and the document differ. -/
def disagreement? (code document : String) : Option Disagreement :=
  fieldConstants.findSome? (disagreementOn? code document)

end TagCatalog.Upkeep
