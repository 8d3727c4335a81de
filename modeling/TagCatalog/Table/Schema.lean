import TagCatalog.Wire.Error

/-!
The layout that readers and writers of table responses agree on.

A table begins with the signed distance back to its field index. The index begins with its own
length and the table's length; then comes, for each slot, the distance of the field from the start
of the table, zero for a field that is not there. Slots are named by their place in the index.
-/

namespace TagCatalog.Table

/-- A place in a field index. -/
abbrev Slot := Nat

namespace Slot

/-- The kind of a response's member. -/
def memberKind : Slot := 4

/-- The member of a response. -/
def member : Slot := 6

/-- The items of a member. -/
def items : Slot := 4

/-- The id of an image. -/
def imageId : Slot := 4

/-- The hash of an image. -/
def imageHash : Slot := 6

/-- The tags of an image. -/
def imageTags : Slot := 8

/-- The attributes of an image. -/
def imageAttributes : Slot := 10

/-- The name of a tag. -/
def tagName : Slot := 4

/-- The user who set a tag. -/
def tagUser : Slot := 6

/-- The key of an attribute. -/
def attributeKey : Slot := 4

/-- The value of an attribute. -/
def attributeValue : Slot := 6

/-- The user who set an attribute. -/
def attributeUser : Slot := 8

end Slot

namespace MemberKind

/-- No member. -/
def nothing : UInt8 := 0

/-- Ids. -/
def ids : UInt8 := 1

/-- Hashes. -/
def hashes : UInt8 := 2

/-- Images. -/
def images : UInt8 := 3

end MemberKind

/-- The bytes of an index before its first slot. -/
def indexHead : Nat := 4

/-- The most tables that may be visited. -/
def maxTables : Nat := 1000000

/-- The bytes of a response, for reading at any position. -/
abbrev Buffer := Array UInt8

namespace Buffer

/-- The number in the `width` bytes from `position` on, if they are all there. -/
def uint? (b : Buffer) (position : Nat) : (width : Nat) → Option Nat
  | 0 => some 0
  | width + 1 => do
    let low ← b[position]?
    let high ← uint? b (position + 1) width
    return low.toNat + 256 * high

/-- The bytes from `start` up to `stop`. -/
def slice (b : Buffer) (start stop : Nat) : Bytes := (b.extract start stop).toList

end Buffer

/-- A number of 32 bits read as a signed one. -/
def signed32 (n : Nat) : Int := if 2 * n < UInt32.size then n else (n : Int) - UInt32.size

end TagCatalog.Table
