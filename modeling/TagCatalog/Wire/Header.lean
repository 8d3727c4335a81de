import TagCatalog.Wire.FieldSet

/-!
The four bytes in front of a flat response: three magic bytes and the byte that selects fields.

* `Header.encode`, `Header.decode`: the magic bytes are looked at first, then the selecting byte,
  then the size of the whole response.
-/

namespace TagCatalog.Wire

/-- The bytes with which a flat response begins. -/
def magic : Bytes := [0x54, 0x4D, 0x53]

/-- Refuses a response over the size limit. -/
def checkSize (size : Nat) : Except DecodeError Unit :=
  if maxResponseSize < size then .error (.malformed maxResponseSize (.tooLarge size)) else .ok ()

/-- The header that selects these fields. -/
def Header.encode (fields : FieldSet) : Bytes := magic ++ [fields.toByte]

/-- The fields selected by the header of a response. -/
def Header.decode (response : Bytes) : Except DecodeError FieldSet :=
  if response.take 3 ≠ magic then .error (.header (.magic (response.take 3)))
  else match response[3]? with
    | none => .error (.header .noFlags)
    | some b => do
      let fields ← FieldSet.ofByte b
      checkSize response.length
      return fields

end TagCatalog.Wire
