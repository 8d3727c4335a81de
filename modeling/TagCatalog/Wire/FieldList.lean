import TagCatalog.Image.Record
import TagCatalog.Wire.Error

/-!
Payloads of a single field: values of one width, one after another.

* `FieldList.encodeIds`, `FieldList.encodeHashes`: ids in four bytes, hashes in 32.
* `FieldList.decodeIds`, `FieldList.decodeHashes`: refuse a payload that ends inside a value.
-/

namespace TagCatalog.Wire.FieldList

/-- The bytes of an id. -/
def idWidth : Nat := 4

/-- Refuses a payload that is not a whole number of values of one width. -/
def checkWhole (width : Nat) (payload : Bytes) : Except DecodeError Unit :=
  let size := payload.length
  let tail := size % width
  if tail ≠ 0 then .error (.truncated (headerLength + (size - tail)) width tail) else .ok ()

/-- The ids of four bytes each, after those of `done`, which is reversed. -/
def idsFrom (done : List UInt32) : Bytes → List UInt32
  | a :: b :: c :: d :: rest =>
    idsFrom (UInt32.ofNat (LittleEndian.decode [a, b, c, d]) :: done) rest
  | _ => done.reverse

/-- The hashes of 32 bytes each, after those of `done`, which is reversed. -/
def hashesFrom (done : List ImageHash) (payload : Bytes) : List ImageHash :=
  if h : (payload.take 32).length = 32 then
    hashesFrom (⟨payload.take 32, h⟩ :: done) (payload.drop 32)
  else done.reverse
termination_by payload.length
decreasing_by
  rw [List.length_take] at h
  rw [List.length_drop]
  omega

/-- The ids of a payload. -/
def decodeIds (payload : Bytes) : Except DecodeError (List UInt32) := do
  checkWhole idWidth payload
  return idsFrom [] payload

/-- The hashes of a payload. -/
def decodeHashes (payload : Bytes) : Except DecodeError (List ImageHash) := do
  checkWhole ImageHash.size payload
  return hashesFrom [] payload

/-- An id in four bytes. -/
def encodeId (id : UInt32) : Bytes := LittleEndian.encode idWidth id.toNat

/-- The payload of ids alone. -/
def encodeIds (ids : List UInt32) : Bytes := ids.flatMap encodeId

/-- The payload of hashes alone. -/
def encodeHashes (hashes : List ImageHash) : Bytes := hashes.flatMap (·.bytes)

end TagCatalog.Wire.FieldList
