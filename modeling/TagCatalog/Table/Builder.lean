import TagCatalog.Image.Hash
import TagCatalog.Table.Schema

/-!
Writing tables from the end of a response toward its front.

* `Builder`: what is written so far. A thing is named by its `Mark`, the number of bytes from its
  first byte to the end of the response, which later writing does not change.
* `Builder.text`, `Builder.list`, `Builder.table`: write a text, a list, a table with its field
  index; an index that is already there is used again.
* `Builder.finish`: the finished response around its root table.
-/

namespace TagCatalog.Table

/-- The distance of a thing's first byte from the end of the response. -/
abbrev Mark := Nat

/-- A response that is being written. -/
structure Builder where
  /-- The bytes so far: the end of the response. -/
  bytes : Bytes
  /-- How many there are. -/
  used : Nat
  /-- The widest multiple at which anything has to stand. -/
  alignment : Nat
  /-- The field indexes so far, each with its mark. -/
  indexes : List (Bytes × Mark)
  /-- `used` counts the bytes. -/
  used_eq : used = bytes.length := by rfl

namespace Builder

/-- The response of which nothing is written. -/
def empty : Builder := { bytes := [], used := 0, alignment := 1, indexes := [] }

/-- Bytes in front of what is written. -/
def prepend (front : Bytes) (b : Builder) : Builder :=
  { b with
    bytes := front ++ b.bytes
    used := front.length + b.used
    used_eq := by simp [b.used_eq] }

/-- The zero bytes after which `size` more bytes end at a multiple of `multiple` from the end. -/
def padding (used size multiple : Nat) : Nat := (multiple - (used + size) % multiple) % multiple

/-- Makes `size` more bytes end at a multiple of `multiple`. -/
def align (size multiple : Nat) (b : Builder) : Builder :=
  { b.prepend (List.replicate (padding b.used size multiple) 0) with
    alignment := max b.alignment multiple }

/-- A number of `width` bytes. -/
def number (width n : Nat) (b : Builder) : Builder :=
  (b.align width width).prepend (LittleEndian.encode width n)

/-- The distance from the place where it stands to a mark. -/
def distance (mark : Mark) (b : Builder) : Builder :=
  let b := b.align 4 4
  b.prepend (LittleEndian.encode 4 (b.used + 4 - mark))

/-- A text, ended by a zero byte, with its length in front. -/
def text (s : String) (b : Builder) : Mark × Builder :=
  let bytes := Utf8.encode s
  let b := ((b.align (bytes.length + 1) 4).prepend (bytes ++ [0])).number 4 bytes.length
  (b.used, b)

/-- A list of elements of `size` bytes each, with their number in front. -/
def list (size : Nat) (elements : List Bytes) (b : Builder) : Mark × Builder :=
  let b := (b.align (elements.length * size) 4).prepend elements.flatten
  let b := b.number 4 elements.length
  (b.used, b)

/-- The distances to marks, of which the first stands `start` bytes from the end. -/
def distancesFrom (start : Nat) : List Mark → List Bytes
  | [] => []
  | mark :: rest => LittleEndian.encode 4 (start - mark) :: distancesFrom (start - 4) rest

/-- A list of distances to marks, with their number in front. -/
def marks (l : List Mark) (b : Builder) : Mark × Builder :=
  let b := b.align (l.length * 4) 4
  let b := b.prepend (distancesFrom (b.used + l.length * 4) l).flatten
  let b := b.number 4 l.length
  (b.used, b)

/-! ### Tables -/

/-- The value of a table's field. -/
inductive FieldValue
  /-- A number of so many bytes. -/
  | number (width n : Nat)
  /-- A hash, which may stand anywhere. -/
  | hash (h : ImageHash)
  /-- The distance to a thing already written. -/
  | mark (m : Mark)

/-- The value of a field, written in front. -/
def FieldValue.write : FieldValue → Builder → Builder
  | .number width n, b => b.number width n
  | .hash h, b => (b.align ImageHash.size 1).prepend h.bytes
  | .mark m, b => b.distance m

/-- Writes fields in order, each in front of the one before; the mark of each slot is noted. -/
def fields : List (Slot × FieldValue) → Builder → List (Slot × Mark) × Builder
  | [], b => ([], b)
  | (slot, value) :: rest, b =>
    let b := value.write b
    let (noted, b') := fields rest b
    ((slot, b.used) :: noted, b')

/-- The distance of a slot's field from the start of its table. -/
def slotDistance (noted : List (Slot × Mark)) (table : Mark) (slot : Slot) : Nat :=
  match noted.lookup slot with
  | some mark => table - mark
  | none => 0

/-- The field index of a table of `size` bytes. It goes up to the last slot that is used. -/
def index (noted : List (Slot × Mark)) (table : Mark) (size : Nat) : Bytes :=
  let length := noted.foldl (fun l e => max l (e.1 + 2)) indexHead
  let slots := (List.range ((length - indexHead) / 2)).map fun i => indexHead + 2 * i
  LittleEndian.encode 2 length ++ LittleEndian.encode 2 size ++
    slots.flatMap fun slot => LittleEndian.encode 2 (slotDistance noted table slot)

/-- A table with these fields, written in the order given. -/
def table (content : List (Slot × FieldValue)) (b : Builder) : Mark × Builder :=
  let (noted, inner) := fields content b
  let inner := inner.align 4 4
  let mark := inner.used + 4
  let index := index noted mark (mark - b.used)
  match inner.indexes.lookup index with
  | some known =>
    let b := inner.prepend (LittleEndian.encode 4 (UInt32.size + known - mark))
    (mark, b)
  | none =>
    let b := (inner.prepend (LittleEndian.encode 4 index.length)).prepend index
    (mark, { b with indexes := (index, b.used) :: b.indexes })

/-- The finished response with its root table. -/
def finish (root : Mark) (b : Builder) : Bytes := ((b.align 4 b.alignment).distance root).bytes

end Builder

end TagCatalog.Table
