import TagCatalog.Table.Builder
import TagCatalog.Table.Document

/-!
Table responses as bytes.

* `Document.encode`: every part is written before the table that refers to it.
-/

namespace TagCatalog.Table

/-- What is written from the end toward the front. -/
abbrev Build := StateM Builder

namespace Build

open Builder (FieldValue)

/-- A user's field, which is left out for user zero. -/
def userField (slot : Slot) (user : UInt32) : List (Slot × FieldValue) :=
  if user = 0 then [] else [(slot, .number 4 user.toNat)]

/-- A tag: its name, then its table. -/
def tag (e : TagEntry Unit) : Build Mark := do
  let name ← Builder.text e.name
  Builder.table ((Slot.tagName, .mark name) :: userField Slot.tagUser e.user)

/-- An attribute value: its key, its text, then its table. -/
def keyedValue (e : AttributeEntry Unit) : Build Mark := do
  let key ← Builder.text e.key
  let value ← Builder.text e.value
  Builder.table ((Slot.attributeKey, .mark key) :: (Slot.attributeValue, .mark value) ::
    userField Slot.attributeUser e.user)

/-- A list of tables, each written by `write`, and then the distances to them. -/
def tables {α : Type} (write : α → Build Mark) (l : List α) : Build Mark := do
  let marks ← l.mapM write
  Builder.marks marks

/-- An image: its tags, its attributes, then its table with the fields that it has. -/
def image (e : ImageEntry Unit) : Build Mark := do
  let tags ← e.tags.mapM (tables tag)
  let attributes ← e.attributes.mapM (tables keyedValue)
  let present (slot : Slot) (value : Option FieldValue) : List (Slot × FieldValue) :=
    (value.map (slot, ·)).toList
  Builder.table (present Slot.imageId (e.id.map fun id => .number 4 id.toNat) ++
    present Slot.imageHash (e.hash.map .hash) ++
    present Slot.imageTags (tags.map .mark) ++
    present Slot.imageAttributes (attributes.map .mark))

/-- The table around the items of a member. -/
def member (items : Mark) : Build Mark := Builder.table [(Slot.items, .mark items)]

/-- The root table of a member of a given kind. -/
def root (kind : UInt8) (data : Mark) : Build Mark :=
  Builder.table ((Slot.member, .mark data) ::
    if kind = MemberKind.nothing then [] else [(Slot.memberKind, .number 1 kind.toNat)])

/-- The root table of a document. -/
def document : Document Unit → Build Mark
  | .nothing => Builder.table []
  | .ids l => do
    let items ← Builder.list 4 (l.map fun id => LittleEndian.encode 4 id.toNat)
    root MemberKind.ids (← member items)
  | .hashes l => do
    let items ← Builder.list ImageHash.size (l.map (·.bytes))
    root MemberKind.hashes (← member items)
  | .images l => do
    let items ← tables image l
    root MemberKind.images (← member items)

end Build

/-- The bytes of a document. -/
def Document.encode (d : Document Unit) : Bytes :=
  let (root, b) := Build.document d Builder.empty
  b.finish root

end TagCatalog.Table
