import TagCatalog.Image.Record
import TagCatalog.Wire.Error

/-!
The fields that a flat response carries for each image.

* `FieldSet.toByte`, `FieldSet.ofByte`: the byte that selects them, whose upper half is reserved.
* `FieldSet.covering`: the fewest fields that lose nothing of a list of records.
-/

namespace TagCatalog.Wire

/-- A choice of the fields of a record. -/
structure FieldSet where
  ids : Bool
  hashes : Bool
  tags : Bool
  attributes : Bool
  deriving Repr, DecidableEq

namespace FieldSet

/-- No field. -/
def none : FieldSet := ⟨false, false, false, false⟩

/-- The id alone. -/
def onlyIds : FieldSet := { none with ids := true }

/-- The hash alone. -/
def onlyHashes : FieldSet := { none with hashes := true }

instance : Inhabited FieldSet := ⟨none⟩

/-- The fields of either set. -/
def union (s t : FieldSet) : FieldSet :=
  ⟨s.ids || t.ids, s.hashes || t.hashes, s.tags || t.tags, s.attributes || t.attributes⟩

/-- The byte that selects the fields. -/
def toByte (s : FieldSet) : UInt8 :=
  (if s.ids then 8 else 0) + (if s.hashes then 4 else 0) + (if s.tags then 2 else 0) +
    (if s.attributes then 1 else 0)

/-- The fields selected by a byte whose upper half is zero. -/
def ofByte (b : UInt8) : Except DecodeError FieldSet :=
  if b &&& 0xF0 ≠ 0 then .error (.header (.reservedFlags b))
  else .ok ⟨b &&& 8 ≠ 0, b &&& 4 ≠ 0, b &&& 2 ≠ 0, b &&& 1 ≠ 0⟩

/-- The names of the fields. -/
def names (s : FieldSet) : List String :=
  (if s.ids then ["ids"] else []) ++ (if s.hashes then ["hashes"] else []) ++
    (if s.tags then ["tags"] else []) ++ (if s.attributes then ["attributes"] else [])

/-- The names of the fields in one word. -/
def describe (s : FieldSet) : String := if s = none then "none" else "|".intercalate s.names

/-- The fields that a record has. -/
def ofRecord (r : ImageRecord) : FieldSet :=
  ⟨r.id.isSome, r.hash.isSome, r.tags.isSome, r.attributes.isSome⟩

/-- The fields that any of the records has. -/
def covering (records : List ImageRecord) : FieldSet :=
  records.foldl (fun s r => s.union (ofRecord r)) none

end FieldSet

end TagCatalog.Wire
