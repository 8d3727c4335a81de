import Mathlib.Tactic
import TagCatalog.Proofs.Text.Encoding

/-!
Hashes and their digits.

Digits are read by twos, as the bytes of a text. A digit has one value in either case, and there is
one lower case for each value. So what is read from digits is written in the lower case of them, and
what is written is read back.

* `Utf8.toList_of_forall_lt`: a text of bytes below 128 has a character for each byte.
* `Hex.alphabet`: the digits of either case; `Hex.digit_of_value?` ties a digit to its value.
* `Hex.exists_pairs_eq_ok`, `Hex.flatMap_pair_of_pairs`: which bytes are read as pairs of digits,
  and what is written of those that are; both by the recursion of the reader.
* `Hex.flatMap_pair_lt_iff`: digits are in the order of the bytes that they write.
* `ImageHash.hex_is_exact`: a hash and its digits tell each other.
-/

namespace TagCatalog

/-! ### Texts of one byte for each character -/

namespace Utf8

variable {s : String}

/-- If all bytes are below 128, then all characters are. -/
lemma toNat_lt_of_forall_lt (h : ∀ b ∈ encode s, b < 0x80) {c : Char} (hc : c ∈ s.toList) :
    c.toNat < 0x80 := by
  by_contra hge
  -- a greater character has bytes, and none of them is below 128
  obtain ⟨b, hb⟩ := List.exists_mem_of_length_pos (String.length_utf8EncodeChar c ▸ c.utf8Size_pos)
  have hmem : b ∈ encode s := by
    rw [encode_eq_flatMap]
    exact List.mem_flatMap.2 ⟨c, hc, hb⟩
  exact UInt8.not_lt.2 (le_of_mem_encodeChar (Nat.le_of_not_lt hge) b hb) (h b hmem)

/-- A text of bytes below 128 has a character for each of them. -/
lemma toList_of_forall_lt (h : ∀ b ∈ encode s, b < 0x80) :
    s.toList = (encode s).map fun b => Char.ofNat b.toNat := by
  have hchars := fun c (hc : c ∈ s.toList) => toNat_lt_of_forall_lt h hc
  have hencode : encode s = s.toList.map fun c => UInt8.ofNat c.toNat := by
    rw [← encode_of_forall_lt hchars, String.ofList_toList]
  have hback : ∀ c ∈ s.toList, Char.ofNat (UInt8.ofNat c.toNat).toNat = c := by
    intro c hc
    rw [UInt8.toNat_ofNat_of_lt' ((hchars c hc).trans (by decide)), Char.ofNat_toNat]
  rw [hencode, List.map_map]
  exact ((List.map_congr_left hback).trans (List.map_id _)).symm

end Utf8

namespace Hex

/-! ### Digits -/

variable {b high low : UInt8} {n position : Nat} {digits bytes rest : Bytes}

/-- The digits of either case, as bytes. -/
def alphabet : Bytes := Utf8.encode "0123456789abcdefABCDEF"

/-- The lower case of a character of one byte. -/
def lower (b : UInt8) : Char := (Char.ofNat b.toNat).toLower

/-- What holds of 256 numbers holds of all bytes. -/
lemma forall_byte {P : UInt8 → Prop} (h : ∀ n < 256, P (UInt8.ofNat n)) (b : UInt8) : P b := by
  have hb := h b.toNat b.toNat_lt
  rwa [UInt8.ofNat_toNat] at hb

/-- The digits of the alphabet have a value, and no other bytes have one. -/
lemma isSome_value?_iff (b : UInt8) : (value? b).isSome = true ↔ b ∈ alphabet :=
  forall_byte (P := fun b => (value? b).isSome = true ↔ b ∈ alphabet) (by decide +kernel) b

/-- The lower case of a digit is the digit of its value. -/
lemma digit_of_value? (h : value? b = some n) : n < 16 ∧ digit n = lower b :=
  forall_byte (P := fun b => ∀ n ∈ value? b, n < 16 ∧ digit n = lower b) (by decide +kernel) b n h

/-- Digits are below 128. -/
lemma lt_of_mem_alphabet (h : b ∈ alphabet) : b < 0x80 := by
  have hall : ∀ b ∈ alphabet, b < 0x80 := by decide +kernel
  exact hall b h

/-! ### Pairs of digits -/

/-- Two digits write the byte of which they are the halves. -/
lemma pair_ofNat {h l : Nat} (hh : h < 16) (hl : l < 16) :
    pair (UInt8.ofNat (h * 16 + l)) = [digit h, digit l] := by
  have hbyte : (UInt8.ofNat (h * 16 + l)).toNat = h * 16 + l :=
    UInt8.toNat_ofNat_of_lt' (show h * 16 + l < 256 by omega)
  have hhigh : (h * 16 + l) / 16 = h := by omega
  have hlow : (h * 16 + l) % 16 = l := by omega
  rw [pair, hbyte, hhigh, hlow]

/-- A pair is read if both its bytes are digits and the pairs behind it are read. -/
lemma pairs_cons_cons_eq_ok_iff :
    pairs position (high :: low :: rest) = .ok bytes ↔
      ∃ h l tail, value? high = some h ∧ value? low = some l ∧
        pairs (position + 2) rest = .ok tail ∧ bytes = UInt8.ofNat (h * 16 + l) :: tail := by
  rw [pairs, value, value]
  cases value? high with
  | none => simp [bind, Except.bind]
  | some h =>
    cases value? low with
    | none => simp [bind, Except.bind]
    | some l => cases pairs (position + 2) rest <;> simp [bind, Except.bind, eq_comm]

/-- Digits in pairs are read. -/
lemma exists_pairs_eq_ok (hdigits : ∀ b ∈ digits, b ∈ alphabet) (heven : digits.length % 2 = 0) :
    ∃ bytes, pairs position digits = .ok bytes := by
  fun_induction pairs position digits with
  | case1 => exact ⟨[], rfl⟩
  | case2 => cases heven
  | case3 position high low rest ih =>
    simp only [List.forall_mem_cons] at hdigits
    obtain ⟨hhigh, hlow, hrest⟩ := hdigits
    obtain ⟨h, hh⟩ := Option.isSome_iff_exists.1 ((isSome_value?_iff high).2 hhigh)
    obtain ⟨l, hl⟩ := Option.isSome_iff_exists.1 ((isSome_value?_iff low).2 hlow)
    obtain ⟨tail, htail⟩ := ih hrest (by simpa [Nat.add_assoc] using heven)
    have hpairs := pairs_cons_cons_eq_ok_iff.2 ⟨h, l, tail, hh, hl, htail, rfl⟩
    rw [pairs] at hpairs
    exact ⟨_, hpairs⟩

/-- Bytes that are read as pairs are digits, and what they say is written in their lower case. -/
lemma flatMap_pair_of_pairs (h : pairs position digits = .ok bytes) :
    (∀ b ∈ digits, b ∈ alphabet) ∧ bytes.flatMap pair = digits.map lower := by
  fun_induction pairs position digits generalizing bytes with
  | case1 =>
    cases h
    exact ⟨fun _ hb => (List.not_mem_nil hb).elim, rfl⟩
  | case2 => cases h
  | case3 position high low rest ih =>
    rw [← pairs] at h
    obtain ⟨h, l, tail, hh, hl, htail, rfl⟩ := pairs_cons_cons_eq_ok_iff.1 h
    obtain ⟨hrest, hwritten⟩ := ih htail
    obtain ⟨hh16, hhigh⟩ := digit_of_value? hh
    obtain ⟨hl16, hlow⟩ := digit_of_value? hl
    refine ⟨?_, ?_⟩
    · simp only [List.forall_mem_cons, ← isSome_value?_iff, hh, hl, Option.isSome_some, true_and]
      simpa only [isSome_value?_iff] using hrest
    · rw [List.flatMap_cons, pair_ofNat hh16 hl16, hhigh, hlow, hwritten]
      rfl

/-- A text is read if it has two digits for each byte wanted, and they are read as pairs. -/
lemma decode_eq_ok_iff {length : Nat} {s : String} : decode length s = .ok bytes ↔
    (Utf8.encode s).length = 2 * length ∧ pairs 0 (Utf8.encode s) = .ok bytes := by
  rw [decode]
  split_ifs with hodd hlength
  · simp only [false_iff, not_and]
    omega
  · simp only [false_iff, not_and]
    omega
  · have heq : (Utf8.encode s).length = 2 * length := by omega
    exact (and_iff_right heq).symm

/-! ### The order of digits -/

/-- Digits are in the order of their values. -/
lemma digit_lt_digit_iff {m n : Nat} (hm : m < 16) (hn : n < 16) : digit m < digit n ↔ m < n := by
  have hall : ∀ m < 16, ∀ n < 16, digit m < digit n ↔ m < n := by decide
  exact hall m hm n hn

/-- There is one lower-case digit for each value. -/
lemma digit_inj {m n : Nat} (hm : m < 16) (hn : n < 16) : digit m = digit n ↔ m = n := by
  have hall : ∀ m < 16, ∀ n < 16, digit m = digit n ↔ m = n := by decide
  exact hall m hm n hn

/-- The digits of a byte come first, as the byte does. -/
lemma pair_append_lt_iff {a b : UInt8} {u v : List Char} :
    pair a ++ u < pair b ++ v ↔ a < b ∨ a = b ∧ u < v := by
  have ha := a.toNat_lt
  have hb := b.toNat_lt
  rw [pair, pair, List.cons_append, List.cons_append, List.cons_append, List.cons_append,
    List.nil_append, List.nil_append, List.cons_lt_cons_iff, List.cons_lt_cons_iff,
    digit_lt_digit_iff (by omega) (by omega), digit_lt_digit_iff (by omega) (by omega),
    digit_inj (by omega) (by omega), digit_inj (by omega) (by omega), UInt8.lt_iff_toNat_lt,
    ← UInt8.toNat_inj]
  constructor
  · rintro (hlt | ⟨heq, hlt | ⟨heq', h⟩⟩)
    · exact .inl (by omega)
    · exact .inl (by omega)
    · exact .inr ⟨by omega, h⟩
  · rintro (hlt | ⟨heq, h⟩)
    · by_cases hhigh : a.toNat / 16 < b.toNat / 16
      · exact .inl hhigh
      · exact .inr ⟨by omega, .inl (by omega)⟩
    · exact .inr ⟨by rw [heq], .inr ⟨by rw [heq], h⟩⟩

/-- The digits of bytes are in the order of the bytes. -/
lemma flatMap_pair_lt_iff {u v : Bytes} : u.flatMap pair < v.flatMap pair ↔ u < v := by
  induction u generalizing v with
  | nil =>
    cases v with
    | nil => simp
    | cons b v => simp [pair]
  | cons a u ih =>
    cases v with
    | nil => simp
    | cons b v =>
      rw [List.flatMap_cons, List.flatMap_cons, pair_append_lt_iff, List.cons_lt_cons_iff, ih]

end Hex

/-! ### Hashes -/

namespace ImageHash

variable {s : String} {h : ImageHash}

/-- What is read as a hash is 64 digits, and they are those of the hash. -/
lemma toHex_of_parse (hparse : parse s = .ok h) :
    (Utf8.encode s).length = 64 ∧ (∀ b ∈ Utf8.encode s, b ∈ Hex.alphabet) ∧
      h.toHex = s.toLower := by
  obtain ⟨hlength, hpairs⟩ := Hex.decode_eq_ok_iff.1 (parse_eq_ok_iff.1 hparse)
  obtain ⟨hdigits, hwritten⟩ := Hex.flatMap_pair_of_pairs hpairs
  have hlist := Utf8.toList_of_forall_lt fun b hb => Hex.lt_of_mem_alphabet (hdigits b hb)
  have hlower : (Utf8.encode s).map Hex.lower = s.toList.map Char.toLower := by
    rw [hlist, List.map_map]
    rfl
  refine ⟨hlength, hdigits, ?_⟩
  rw [toHex, Hex.encode, hwritten, hlower]
  exact String.map_eq_internal.symm

/-- Any 64 digits are read as a hash. -/
lemma exists_parse_eq_ok (hlength : (Utf8.encode s).length = 64)
    (hdigits : ∀ b ∈ Utf8.encode s, b ∈ Hex.alphabet) : ∃ h, parse s = .ok h := by
  obtain ⟨bytes, hpairs⟩ : ∃ bytes, Hex.pairs 0 (Utf8.encode s) = .ok bytes :=
    Hex.exists_pairs_eq_ok hdigits (by omega)
  have hdecode : Hex.decode 32 s = .ok bytes := Hex.decode_eq_ok_iff.2 ⟨hlength, hpairs⟩
  exact ⟨⟨bytes, Hex.length_of_decode hdecode⟩, parse_eq_ok_iff.2 hdecode⟩

/-- **Hashes and their digits tell each other.** A text is read as a hash exactly if it is 64 bytes,
all of them digits of either case. The hash is then written in the lower case of the text, and what
is written of a hash is read back as it. Hashes are in the order of their digits. -/
theorem hex_is_exact :
    (∀ s, (∃ h, parse s = .ok h) ↔ (Utf8.encode s).length = 64 ∧
      ∀ b ∈ Utf8.encode s, b ∈ Utf8.encode "0123456789abcdefABCDEF") ∧
    (∀ s h, parse s = .ok h → h.toHex = s.toLower) ∧
    (∀ h, parse h.toHex = .ok h) ∧
    ∀ g h : ImageHash, g < h ↔ g.toHex < h.toHex := by
  refine ⟨fun s => ⟨?_, ?_⟩, fun s h hparse => (toHex_of_parse hparse).2.2, parse_toHex,
    fun g h => ?_⟩
  · rintro ⟨h, hparse⟩
    obtain ⟨hlength, hdigits, -⟩ := toHex_of_parse hparse
    exact ⟨hlength, hdigits⟩
  · rintro ⟨hlength, hdigits⟩
    exact exists_parse_eq_ok hlength hdigits
  · calc g < h ↔ g.bytes < h.bytes := Iff.rfl
      _ ↔ g.bytes.flatMap Hex.pair < h.bytes.flatMap Hex.pair := Hex.flatMap_pair_lt_iff.symm
      _ ↔ g.toHex.toList < h.toHex.toList := by
        rw [toHex, toHex, Hex.encode, Hex.encode, String.toList_ofList, String.toList_ofList]
      _ ↔ g.toHex < h.toHex := Iff.rfl

end ImageHash

end TagCatalog
