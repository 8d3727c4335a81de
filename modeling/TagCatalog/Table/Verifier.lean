import TagCatalog.Image.Hash
import TagCatalog.Table.Schema
import TagCatalog.Text.Utf8

/-!
Checking a table response before anything of it is used.

* `Check`: checks that spend a budget of visited tables and bytes referred to.
* `Check.range`, `Check.scalar`: that bytes are there, and that a number stands at a multiple of its
  size.
* `Check.within`: a check of a part, whose fault is told with the way to that part.
* `Check.response`: that every field, list and text that the response refers to is there.
-/

namespace TagCatalog.Table

open Wire

/-- What has been visited. -/
structure Budget where
  /-- The bytes referred to; a byte counts as often as it is referred to. -/
  apparent : Nat
  /-- The tables visited; a table counts as often as it is visited. -/
  tables : Nat
  deriving Repr, DecidableEq

/-- Checks that spend the budget. -/
abbrev Check (α : Type) := StateT Budget (Except DecodeError) α

namespace Check

/-- An error for a fault of the structure at `offset`. -/
def fault (offset : Nat) (f : Fault) : DecodeError := .malformed offset (.broken f [])

/-- A check of what is a step further in. -/
def within (step : Step) (check : Check Unit) : Check Unit := fun budget =>
  (check budget).mapError (.within step)

/-- That the response has `size` bytes from `start` on. -/
def range (b : Buffer) (start size : Nat) : Check Unit := fun budget =>
  if b.size < start + size then .error (.truncated start size (b.size - start))
  else
    let apparent := budget.apparent + size
    if maxResponseSize < apparent then .error (fault 0 .apparentSize)
    else .ok ((), { budget with apparent })

/-- That `position` is a multiple of a number's size. -/
def aligned (type : Scalar) (position : Nat) : Check Unit :=
  if position % type.size ≠ 0 then throw (fault position (.unaligned type position))
  else pure ()

/-- The number at `position`. -/
def scalar (b : Buffer) (type : Scalar) (position : Nat) : Check Nat := do
  aligned type position
  range b position type.size
  match b.uint? position type.size with
  | some n => return n
  | none => throw (.malformed position .outside)

/-- The position that the distance at `position` leads to. -/
def follow (b : Buffer) (position : Nat) : Check Nat := do
  return position + (← scalar b .u32 position)

/-- Counts one more table. -/
def countTable : Check Unit := fun budget =>
  if maxTables < budget.tables + 1 then .error (fault 0 .manyTables)
  else .ok ((), { budget with tables := budget.tables + 1 })

/-- A table whose field index is known to be there. -/
structure Place where
  position : Nat
  index : Nat
  indexLength : Nat
  deriving Repr, DecidableEq

/-- The table at `position`. -/
def table (b : Buffer) (position : Nat) : Check Place := do
  let distance := signed32 (← scalar b .i32 position)
  let index := (position : Int) - distance
  if index < 0 ∨ (b.size : Int) ≤ index then
    throw (fault position (.indexDistance position distance))
  else
    let index := index.toNat
    let indexLength ← scalar b .u16 index
    aligned .u16 (index + indexLength)
    range b index indexLength
    countTable
    return ⟨position, index, indexLength⟩

/-- The position of a field, if the table has it. -/
def field (b : Buffer) (t : Place) (slot : Slot) : Check (Option Nat) := do
  if slot < t.indexLength then
    let distance ← scalar b .u16 (t.index + slot)
    return if distance = 0 then none else some (t.position + distance)
  else return none

/-- Runs a check on a field, which has a name, if the table has it. -/
def ifField (b : Buffer) (t : Place) (slot : Slot) (name : String) (check : Nat → Check Unit) :
    Check Unit := do
  match ← field b t slot with
  | some position => within (.field name position) (check position)
  | none => return

/-- The list at `position`, whose elements have `size` bytes and stand at multiples of the size of
`type`: where its elements begin, and how many there are. -/
def list (b : Buffer) (size : Nat) (type : Scalar) (position : Nat) : Check (Nat × Nat) := do
  let n ← scalar b .u32 position
  aligned type (position + 4)
  range b (position + 4) (n * size)
  return (position + 4, n)

/-- The text at `position`. -/
def text (b : Buffer) (position : Nat) : Check Unit := do
  let (start, n) ← list b 1 .u8 position
  let bytes := b.slice start (start + n)
  match Utf8.decode? bytes with
  | none => throw (fault start (.notText start (start + n) (Utf8.fault bytes)))
  | some _ =>
    if b[start + n]? = some 0 then return
    else throw (fault start (.unterminated start (start + n)))

/-- So many tables from the one of number `index` on, each led to by the distance at its place in a
list. -/
def tables (b : Buffer) (check : Nat → Check Unit) (index position : Nat) : (n : Nat) → Check Unit
  | 0 => return
  | n + 1 => do
    within (.element index position) (do check (← follow b position))
    tables b check (index + 1) (position + 4) n

/-- The list of tables at `position`. -/
def tableList (b : Buffer) (check : Nat → Check Unit) (position : Nat) : Check Unit := do
  let (start, n) ← list b 4 .u32 position
  tables b check 0 start n

/-- A tag: its name and its user. -/
def tag (b : Buffer) (position : Nat) : Check Unit := do
  let t ← table b position
  ifField b t Slot.tagName "tag" fun p => do text b (← follow b p)
  ifField b t Slot.tagUser "user" fun p => discard (scalar b .u32 p)

/-- An attribute value: its key, its text and its user. -/
def keyedValue (b : Buffer) (position : Nat) : Check Unit := do
  let t ← table b position
  ifField b t Slot.attributeKey "key" fun p => do text b (← follow b p)
  ifField b t Slot.attributeValue "value" fun p => do text b (← follow b p)
  ifField b t Slot.attributeUser "user" fun p => discard (scalar b .u32 p)

/-- An image: its id, hash, tags and attributes. -/
def image (b : Buffer) (position : Nat) : Check Unit := do
  let t ← table b position
  ifField b t Slot.imageId "id" fun p => discard (scalar b .u32 p)
  ifField b t Slot.imageHash "hash" fun p => range b p ImageHash.size
  ifField b t Slot.imageTags "tags" fun p => do tableList b (tag b) (← follow b p)
  ifField b t Slot.imageAttributes "attributes" fun p => do
    tableList b (keyedValue b) (← follow b p)

/-- A member of a given kind: a table with a list of items. A kind that is not known is not looked
into. -/
def member (b : Buffer) (kind : Nat) (position : Nat) : Check Unit := do
  let items (member name : String) (check : Nat → Check Unit) : Check Unit :=
    within (.member member position) do
      let t ← table b (← follow b position)
      ifField b t Slot.items name fun p => do check (← follow b p)
  if kind = MemberKind.ids.toNat then
    items "IdResponse" "ids" fun p => discard (list b 4 .u32 p)
  else if kind = MemberKind.hashes.toNat then
    items "HashResponse" "hashes" fun p => discard (list b ImageHash.size .u8 p)
  else if kind = MemberKind.images.toNat then
    items "ImageResponse" "images" (tableList b (image b))
  else return

/-- A response: its member and the kind of its member are both there or both absent. -/
def response (b : Buffer) : Check Unit := do
  let t ← table b (← follow b 0)
  let data ← field b t Slot.member
  let kind ← field b t Slot.memberKind
  match data, kind with
  | none, none => return
  | some data, some kind => do
    let kind ← scalar b .u8 kind
    within (.field "data" data) (member b kind data)
  | _, _ => throw (fault 0 .halfMember)

end Check

/-- Refuses a response that refers to anything that is not there. -/
def verify (b : Buffer) : Except DecodeError Unit := do
  discard ((Check.response b).run ⟨0, 0⟩)

end TagCatalog.Table
