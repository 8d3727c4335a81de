/-!
Byte strings, and naturals written in them least significant byte first.

* `LittleEndian.encode`, `LittleEndian.decode`: a fixed number of bytes and back.
* `byteCapacity`: the number of values that so many bytes tell apart.
* `LittleEndian.decode_encode`, `LittleEndian.encode_decode`: the two are inverse, below that number
  one way and always the other.
-/

namespace TagCatalog

/-- A string of bytes. -/
abbrev Bytes := List UInt8

/-- The number of values that so many bytes tell apart. -/
def byteCapacity : Nat → Nat
  | 0 => 1
  | width + 1 => 256 * byteCapacity width

namespace LittleEndian

/-- The `width` lowest bytes of `n`, least significant first. -/
def encode : Nat → Nat → Bytes
  | 0, _ => []
  | width + 1, n => UInt8.ofNat n :: encode width (n / 256)

/-- The natural whose bytes these are, least significant first. -/
def decode : Bytes → Nat
  | [] => 0
  | b :: rest => b.toNat + 256 * decode rest

/-- A number is written in as many bytes as are asked for. -/
@[simp] theorem length_encode (width n : Nat) : (encode width n).length = width := by
  induction width generalizing n with
  | zero => rfl
  | succ width ih => simp [encode, ih]

/-- Bytes write a number that so many bytes have room for. -/
theorem decode_lt (bytes : Bytes) : decode bytes < byteCapacity bytes.length := by
  induction bytes with
  | nil => exact Nat.zero_lt_one
  | cons b rest ih =>
    have hb := b.toNat_lt
    rw [decode, List.length_cons, byteCapacity]
    omega

/-- A number that so many bytes have room for is read back from them. -/
theorem decode_encode {width n : Nat} (h : n < byteCapacity width) :
    decode (encode width n) = n := by
  induction width generalizing n with
  | zero =>
    rw [byteCapacity] at h
    simp only [encode, decode]
    omega
  | succ width ih =>
    rw [byteCapacity] at h
    rw [encode, decode, ih (by omega), UInt8.toNat_ofNat']
    omega

/-- Bytes are written back from the number they write. -/
theorem encode_decode (bytes : Bytes) : encode bytes.length (decode bytes) = bytes := by
  induction bytes with
  | nil => rfl
  | cons b rest ih =>
    have hb := b.toNat_lt
    have hdiv : (b.toNat + 256 * decode rest) / 256 = decode rest := by omega
    have hlow : UInt8.ofNat (b.toNat + 256 * decode rest) = b := by
      apply UInt8.toNat_inj.1
      rw [UInt8.toNat_ofNat']
      omega
    rw [List.length_cons, decode, encode, hdiv, hlow, ih]

end LittleEndian

end TagCatalog
