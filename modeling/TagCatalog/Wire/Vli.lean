import TagCatalog.Wire.Cursor

/-!
Numbers and texts as the flat format writes them.

* `Vli.encode`: a number below `0xFD` is its own byte; a greater one follows a marker, in the
  narrowest of two, four and eight bytes that holds it.
* `Vli.decode`: the number at the front of a byte string, in any form, and the bytes it takes.
* `encodeString`: a text with the number of its bytes in front.
-/

namespace TagCatalog.Wire

/-- The shortest form of a number. -/
def Vli.encode (n : UInt64) : Bytes :=
  if n.toNat < 0xFD then [n.toUInt8]
  else if n.toNat < UInt16.size then 0xFD :: LittleEndian.encode 2 n.toNat
  else if n.toNat < UInt32.size then 0xFE :: LittleEndian.encode 4 n.toNat
  else 0xFF :: LittleEndian.encode 8 n.toNat

/-- The number at the front of a byte string, and how many bytes it takes. -/
def Vli.decode (bytes : Bytes) : Except DecodeError (UInt64 × Nat) :=
  match Read.vli ⟨bytes, 0⟩ with
  | (.ok n, c) => .ok (n, c.offset)
  | (.error e, _) => .error e

/-- A number of entries in its shortest form. -/
def encodeCount (n : Nat) : Bytes := Vli.encode (UInt64.ofNat n)

/-- A text with the number of its bytes in front. -/
def encodeString (s : String) : Bytes :=
  let bytes := Utf8.encode s
  encodeCount bytes.length ++ bytes

end TagCatalog.Wire
