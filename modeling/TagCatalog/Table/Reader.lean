import TagCatalog.Table.Document
import TagCatalog.Table.Schema

/-!
What a verified table response says.

* `View.document`: the document of a response. Each read outside the response is an error of its
  own, so that a verified response is one that is read without such an error.
-/

namespace TagCatalog.Table

open Wire

namespace View

/-- What is read from a response. -/
abbrev Reads (α : Type) := Except DecodeError α

/-- The number in the `width` bytes at `position`. -/
def uint (b : Buffer) (position width : Nat) : Reads Nat :=
  match b.uint? position width with
  | some n => .ok n
  | none => .error (.malformed position .outside)

/-- The position that the distance at `position` leads to. -/
def follow (b : Buffer) (position : Nat) : Reads Nat := do
  return position + (← uint b position 4)

/-- The position of the field index of the table at `position`. -/
def index (b : Buffer) (position : Nat) : Reads Nat := do
  let index := (position : Int) - signed32 (← uint b position 4)
  if index < 0 then .error (.malformed position .outside) else return index.toNat

/-- The position of a field, if the table at `position` has it. -/
def field (b : Buffer) (position : Nat) (slot : Slot) : Reads (Option Nat) := do
  let index ← index b position
  if slot + 2 ≤ (← uint b index 2) then
    let distance ← uint b (index + slot) 2
    return if distance = 0 then none else some (position + distance)
  else return none

/-- The field of the table at `position`, read if the table has it. -/
def optional {α : Type} (b : Buffer) (position : Nat) (slot : Slot) (read : Nat → Reads α) :
    Reads (Option α) := do
  match ← field b position slot with
  | some p => some <$> read p
  | none => return none

/-- The number of 32 bits at `position`. -/
def word (b : Buffer) (position : Nat) : Reads UInt32 := do
  return UInt32.ofNat (← uint b position 4)

/-- The hash at `position`. -/
def hash (b : Buffer) (position : Nat) : Reads ImageHash :=
  match ImageHash.ofBytes? (b.slice position (position + ImageHash.size)) with
  | some h => .ok h
  | none => .error (.malformed position .outside)

/-- The text that the distance at `position` leads to. -/
def text (b : Buffer) (position : Nat) : Reads String := do
  let start ← follow b position
  let n ← uint b start 4
  let bytes := b.slice (start + 4) (start + 4 + n)
  match if bytes.length = n then Utf8.decode? bytes else none with
  | some s => return s
  | none => .error (.malformed start .outside)

/-- So many elements of `size` bytes each from `position` on, after those of `done`, which is
reversed. -/
def elements {α : Type} (size : Nat) (read : Nat → Reads α) (done : List α) (position : Nat) :
    (n : Nat) → Reads (List α)
  | 0 => .ok done.reverse
  | n + 1 => do elements size read ((← read position) :: done) (position + size) n

/-- The list that the distance at `position` leads to. -/
def list {α : Type} (b : Buffer) (size : Nat) (read : Nat → Reads α) (position : Nat) :
    Reads (List α) := do
  let start ← follow b position
  elements size read [] (start + 4) (← uint b start 4)

/-- The list of tables that the distance at `position` leads to. -/
def tables {α : Type} (b : Buffer) (read : Nat → Reads α) (position : Nat) : Reads (List α) :=
  list b 4 (fun p => do read (← follow b p)) position

/-- The tag at `position`; a name that is lacking is empty, and a user that is lacking is zero. -/
def tag (b : Buffer) (position : Nat) : Reads (TagEntry Nat) := do
  let name ← optional b position Slot.tagName (text b)
  let user ← optional b position Slot.tagUser (word b)
  return ⟨position, name.getD "", user.getD 0⟩

/-- The attribute value at `position`; what is lacking is empty or zero. -/
def keyedValue (b : Buffer) (position : Nat) : Reads (AttributeEntry Nat) := do
  let key ← optional b position Slot.attributeKey (text b)
  let value ← optional b position Slot.attributeValue (text b)
  let user ← optional b position Slot.attributeUser (word b)
  return ⟨position, key.getD "", value.getD "", user.getD 0⟩

/-- The image at `position`. -/
def image (b : Buffer) (position : Nat) : Reads (ImageEntry Nat) := do
  let id ← optional b position Slot.imageId (word b)
  let hash ← optional b position Slot.imageHash (hash b)
  let tags ← optional b position Slot.imageTags (tables b (tag b))
  let attributes ← optional b position Slot.imageAttributes (tables b (keyedValue b))
  return ⟨id, hash, tags, attributes⟩

/-- The items of the member that the distance at `position` leads to. -/
def items {α : Type} (b : Buffer) (read : Nat → Reads (List α)) (position : Nat) :
    Reads (List α) := do
  return (← optional b (← follow b position) Slot.items read).getD []

/-- The document of a response. A kind of member that is not known is an error of the header. -/
def document (b : Buffer) : Reads (Document Nat) := do
  let root ← follow b 0
  let kind := (← optional b root Slot.memberKind fun p => UInt8.ofNat <$> uint b p 1).getD
    MemberKind.nothing
  let member {α : Type} (read : Nat → Reads (List α)) : Reads (List α) := do
    match ← field b root Slot.member with
    | some p => items b read p
    | none => .error (.malformed root (.noMember kind))
  if kind = MemberKind.nothing then return .nothing
  else if kind = MemberKind.ids then return .ids (← member (list b 4 (word b)))
  else if kind = MemberKind.hashes then
    return .hashes (← member (list b ImageHash.size (hash b)))
  else if kind = MemberKind.images then return .images (← member (tables b (image b)))
  else .error (.header (.unknownKind kind))

end View

end TagCatalog.Table
