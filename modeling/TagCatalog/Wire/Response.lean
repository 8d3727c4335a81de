import TagCatalog.Wire.Header
import TagCatalog.Wire.Record

/-!
Flat responses: a header, and a payload whose shape the header alone decides.

* `encodeResponse`: ids alone and hashes alone are bare lists; records carry every field that any
  of them has.
* `decodeResponse`: of one field, the bare list; of none, no bytes and an empty list of ids; else
  records.
-/

namespace TagCatalog.Wire

/-- The response that carries a result. -/
def encodeResponse : SearchResult → Bytes
  | .ids [] => Header.encode .none
  | .ids ids => Header.encode .onlyIds ++ FieldList.encodeIds ids
  | .hashes hashes => Header.encode .onlyHashes ++ FieldList.encodeHashes hashes
  | .images records =>
    let fields := FieldSet.covering records
    Header.encode fields ++ encodeRecords fields records

/-- The result that a response carries. -/
def decodeResponse (response : Bytes) : Except DecodeError SearchResult := do
  let fields ← Header.decode response
  let payload := response.drop headerLength
  if fields = .onlyIds then return .ids (← FieldList.decodeIds payload)
  else if fields = .onlyHashes then return .hashes (← FieldList.decodeHashes payload)
  else if fields = .none ∧ payload = [] then return .ids []
  else return .images (← decodeRecords fields payload)

end TagCatalog.Wire
