import Mathlib.Tactic
import TagCatalog.Image.Hash

/-!
Texts as bytes, and bytes as digits.

* `Utf8.encode_append`, `Utf8.encode_ofList`: the bytes of a text are those of its characters.
* `Utf8.encodeChar_of_lt`, `Utf8.le_of_mem_encodeChar`: the characters below 128 are bytes of their
  own, and the others have none below 128.
* `Hex.decode_encode`, `ImageHash.parse_toHex`: bytes are read back from their digits.
-/

namespace TagCatalog

/-! ### Characters -/

namespace Utf8

lemma encode_append (s t : String) : encode (s ++ t) = encode s ++ encode t := by
  simp [encode, String.toByteArray_append]

lemma encode_ofList (l : List Char) :
    encode (String.ofList l) = l.flatMap String.utf8EncodeChar := by
  rw [encode, String.toByteArray_ofList, List.utf8Encode]
  simp

lemma encode_eq_flatMap (s : String) : encode s = s.toList.flatMap String.utf8EncodeChar := by
  rw [← encode_ofList, String.ofList_toList]

lemma encode_singleton (c : Char) : encode (String.singleton c) = String.utf8EncodeChar c := by
  rw [encode_eq_flatMap]
  simp

/-- A character below 128 is one byte. -/
lemma encodeChar_of_lt {c : Char} (h : c.toNat < 0x80) :
    String.utf8EncodeChar c = [UInt8.ofNat c.toNat] := by
  have hle : c.val.toNat ≤ 127 := Nat.le_of_lt_succ h
  rw [String.utf8EncodeChar]
  exact if_pos hle

/-- Characters below 128 are one byte each. -/
lemma encode_of_forall_lt {l : List Char} (h : ∀ c ∈ l, c.toNat < 0x80) :
    encode (String.ofList l) = l.map fun c => UInt8.ofNat c.toNat := by
  rw [encode_ofList, ← List.flatMap_pure_eq_map]
  exact List.flatMap_congr fun c hc => encodeChar_of_lt (h c hc)

/-- The other characters have no byte below 128. -/
lemma le_of_mem_encodeChar {c : Char} (h : 0x80 ≤ c.toNat) :
    ∀ b ∈ String.utf8EncodeChar c, 0x80 ≤ b := by
  have hhigh (n : Nat) (hle : 128 ≤ n) (hlt : n < 256) : 0x80 ≤ UInt8.ofNat n := by
    rw [UInt8.le_iff_toNat_le, UInt8.toNat_ofNat', Nat.mod_eq_of_lt hlt]
    exact hle
  have hnot : ¬ c.val.toNat ≤ 127 := Nat.not_le_of_lt h
  rw [String.utf8EncodeChar, if_neg hnot]
  split_ifs <;> simp only [List.forall_mem_cons, List.not_mem_nil, false_imp_iff, implies_true]
  · exact ⟨hhigh _ (by omega) (by omega), hhigh _ (by omega) (by omega), trivial⟩
  · exact ⟨hhigh _ (by omega) (by omega), hhigh _ (by omega) (by omega),
      hhigh _ (by omega) (by omega), trivial⟩
  · exact ⟨hhigh _ (by omega) (by omega), hhigh _ (by omega) (by omega),
      hhigh _ (by omega) (by omega), hhigh _ (by omega) (by omega), trivial⟩

end Utf8

/-! ### Digits -/

namespace Hex

lemma value?_digit {n : Nat} (h : n < 16) : value? (UInt8.ofNat (digit n).toNat) = some n := by
  have hall : ∀ n < 16, value? (UInt8.ofNat (digit n).toNat) = some n := by decide
  exact hall n h

lemma toNat_digit_lt {n : Nat} (h : n < 16) : (digit n).toNat < 0x80 := by
  have hall : ∀ n < 16, (digit n).toNat < 0x80 := by decide
  exact hall n h

/-- The digits of bytes, as bytes. -/
lemma encode_eq (bytes : Bytes) : Utf8.encode (encode bytes) = bytes.flatMap fun b =>
    [UInt8.ofNat (digit (b.toNat / 16)).toNat, UInt8.ofNat (digit (b.toNat % 16)).toNat] := by
  rw [encode, Utf8.encode_of_forall_lt, List.map_flatMap]
  · rfl
  · intro c hc
    obtain ⟨b, -, hc⟩ := List.mem_flatMap.1 hc
    have hb := b.toNat_lt
    rw [pair] at hc
    simp only [List.mem_cons, List.not_mem_nil, or_false] at hc
    obtain rfl | rfl := hc
    · exact toNat_digit_lt (by omega)
    · exact toNat_digit_lt (by omega)

/-- Bytes are read back from their digits, wherever these stand. -/
lemma pairs_digits (position : Nat) (bytes : Bytes) :
    pairs position (bytes.flatMap fun b =>
      [UInt8.ofNat (digit (b.toNat / 16)).toNat, UInt8.ofNat (digit (b.toNat % 16)).toNat]) =
      .ok bytes := by
  induction bytes generalizing position with
  | nil => rfl
  | cons b bytes ih =>
    have hb := b.toNat_lt
    have hsum : b.toNat / 16 * 16 + b.toNat % 16 = b.toNat := by omega
    rw [List.flatMap_cons, List.cons_append, List.cons_append, List.nil_append, pairs, value,
      value, value?_digit (by omega), value?_digit (by omega)]
    dsimp only [bind, Except.bind]
    rw [ih, hsum, UInt8.ofNat_toNat]

/-- Bytes are read back from their digits. -/
lemma decode_encode (bytes : Bytes) : decode bytes.length (encode bytes) = .ok bytes := by
  have hlength : (Utf8.encode (encode bytes)).length = 2 * bytes.length := by
    rw [encode_eq]
    simp [List.length_flatMap, Nat.mul_comm]
  rw [decode, if_neg (by omega), if_neg (by omega), encode_eq, pairs_digits]

end Hex

namespace ImageHash

/-- A hash is read where its bytes are. -/
lemma parse_eq_ok_iff {s : String} {h : ImageHash} :
    parse s = .ok h ↔ Hex.decode 32 s = .ok h.bytes := by
  rw [parse]
  split
  next bytes hbytes => simp [hbytes, ImageHash.ext_iff]
  next e he => simp [he]

/-- A hash is read back from its digits. -/
lemma parse_toHex (h : ImageHash) : parse h.toHex = .ok h := by
  rw [parse_eq_ok_iff, toHex, ← h.length_bytes]
  exact Hex.decode_encode h.bytes

end ImageHash

end TagCatalog
