import TagCatalog.Text.Utf8

/-!
What can be wrong with the structure of a table response, and where in it.

* `Fault`: what is wrong, and `Fault.message`: the wording.
* `Step`: a step of the way from the whole response to the place of a fault.
-/

namespace TagCatalog.Table

/-- The fixed-width numbers of a table response. -/
inductive Scalar
  | u8
  | u16
  | u32
  | i32
  deriving Repr, DecidableEq

/-- The word for a number's type. -/
def Scalar.name : Scalar → String
  | .u8 => "u8"
  | .u16 => "u16"
  | .u32 => "u32"
  | .i32 => "i32"

/-- The bytes of a number, and the multiple at which it has to stand. -/
def Scalar.size : Scalar → Nat
  | .u8 => 1
  | .u16 => 2
  | .u32 | .i32 => 4

/-- What is wrong with the structure of a table response. -/
inductive Fault
  /-- A string, at these bytes, is no text. -/
  | notText (start stop : Nat) (fault : Utf8.Fault)
  /-- A string, at these bytes, is not followed by a zero byte. -/
  | unterminated (start stop : Nat)
  /-- A number does not stand at a multiple of its size. -/
  | unaligned (type : Scalar) (position : Nat)
  /-- The distance from a table to its field index leads out of the response. -/
  | indexDistance (position : Nat) (distance : Int)
  /-- Of a member and its kind, only one is there. -/
  | halfMember
  /-- There are too many tables. -/
  | manyTables
  /-- The tables refer to too many bytes in all. -/
  | apparentSize
  deriving Repr, DecidableEq

namespace Fault

/-- The wording of a fault. -/
def message : Fault → String
  | notText start stop fault =>
    "Utf8 error for string in " ++ toString start ++ ".." ++ toString stop ++ ": " ++ fault.message
  | unterminated start stop =>
    "String in range [" ++ toString start ++ ", " ++ toString stop ++
      ") is missing its null terminator."
  | unaligned type position =>
    "Type \x60" ++ type.name ++ "\x60 at position " ++ toString position ++ " is unaligned."
  | indexDistance position distance =>
    "Signed offset at position " ++ toString position ++ " has value " ++ toString distance ++
      " which points out of bounds."
  | halfMember =>
    "Exactly one of union discriminant (\x60data\x60) and value (\x60data_type\x60) are present."
  | manyTables => "Too many tables."
  | apparentSize => "Apparent size too large."

/-- Whether a fault is one of a place. The limits on the whole response are not. -/
def hasPlace : Fault → Bool
  | manyTables | apparentSize => false
  | _ => true

end Fault

/-- A step of the way from the whole response to a place in it, with the position it leads to. -/
inductive Step
  /-- To an element of a list. -/
  | element (index position : Nat)
  /-- To a field of a table. -/
  | field (name : String) (position : Nat)
  /-- To a member of a response. -/
  | member (name : String) (position : Nat)
  deriving Repr, DecidableEq

/-- The wording of a step. -/
def Step.message : Step → String
  | element index position =>
    "while verifying vector element " ++ toString index ++ " at position " ++ toString position
  | field name position =>
    "while verifying table field \x60" ++ name ++ "\x60 at position " ++ toString position
  | member name position =>
    "while verifying union variant \x60" ++ name ++ "\x60 at position " ++ toString position

/-- The wording of a fault and of the way to it, which is told from the fault outwards, a line for
each step. -/
def Fault.report (fault : Fault) (way : List Step) : String :=
  let steps := String.join (way.map fun step => "\t" ++ step.message ++ "\n")
  fault.message ++ "\n" ++ if fault.hasPlace then steps ++ "\n" else ""

end TagCatalog.Table
