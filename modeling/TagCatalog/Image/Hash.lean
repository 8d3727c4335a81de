import TagCatalog.Bytes.Hex

/-!
Content hashes of images: 32 bytes, named by their 64 hexadecimal digits.

* `ImageHash.ofBytes?`: a hash is exactly 32 bytes.
* `ImageHash.toHex`, `ImageHash.parse`: a hash is written in lower case and read in either case.
-/

namespace TagCatalog

/-- The content hash of an image. -/
structure ImageHash where
  /-- Its bytes. -/
  bytes : Bytes
  /-- There are 32 of them. -/
  length_bytes : bytes.length = 32

namespace ImageHash

/-- The number of bytes of a hash. -/
def size : Nat := 32

/-- Hashes of the same bytes are the same. -/
@[ext] theorem ext {g h : ImageHash} (eq : g.bytes = h.bytes) : g = h := by
  cases g; cases h; simp_all

instance : DecidableEq ImageHash := fun g h =>
  decidable_of_iff (g.bytes = h.bytes) ⟨ext, fun e => e ▸ rfl⟩

/-- The hash of these bytes, if there are as many as a hash has. -/
def ofBytes? (bytes : Bytes) : Option ImageHash :=
  if h : bytes.length = 32 then some ⟨bytes, h⟩ else none

/-- The hash whose bytes are all `b`. -/
def replicate (b : UInt8) : ImageHash := ⟨List.replicate 32 b, by simp⟩

/-- The hash of zero bytes, which stands for a hash that is lacking. -/
def zero : ImageHash := replicate 0

instance : Inhabited ImageHash := ⟨zero⟩

/-- Hashes are ordered by their bytes. -/
instance : LT ImageHash := ⟨fun g h => g.bytes < h.bytes⟩

instance : DecidableLT ImageHash := fun g h => inferInstanceAs (Decidable (g.bytes < h.bytes))

/-- The digits of a hash, in lower case. -/
def toHex (h : ImageHash) : String := Hex.encode h.bytes

/-- A hash as shown in diagnostics. -/
def describe (h : ImageHash) : String := "ImageHash(" ++ h.toHex ++ ")"

/-- The hash written by 64 digits of either case. -/
def parse (s : String) : Except Hex.Fault ImageHash :=
  match h : Hex.decode 32 s with
  | .ok bytes => .ok ⟨bytes, Hex.length_of_decode h⟩
  | .error e => .error e

/-- The message for a text that is no hash. -/
def parseMessage (fault : Hex.Fault) : String := "invalid image hash: " ++ fault.message

end ImageHash

end TagCatalog
