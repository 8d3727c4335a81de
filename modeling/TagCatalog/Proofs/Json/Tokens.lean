import Mathlib.Tactic
import TagCatalog.Json.Reader
import TagCatalog.Proofs.Text.Encoding

/-!
Strings and numbers in JSON texts are read back.

* `Json.stringBody_escape`: every character is read back from how it is written in a string.
* `Json.string?_closing`: so is every string, whatever follows it.
* `Json.Delimits`: what may follow a number; `Json.number?_digits` reads one up to there.

A character is written as itself or as an escape, which has a letter or four digits; below 128 a
character is one byte, so that no byte of another is taken for a quote or a backslash.
-/

namespace TagCatalog.Json

/-! ### Strings -/

section

variable {done rest : Bytes}

/-- Bytes other than quotes, backslashes and controls stand for themselves. -/
lemma stringBody_of_plain {bytes : Bytes}
    (h : ∀ b ∈ bytes, b ≠ 0x22 ∧ b ≠ 0x5C ∧ ¬ b < 0x20) :
    stringBody (some done) 0 (bytes ++ rest) =
      stringBody (some (bytes.reverse ++ done)) 0 rest := by
  induction bytes generalizing done with
  | nil => rfl
  | cons b bytes ih =>
    rw [List.forall_mem_cons] at h
    obtain ⟨⟨hquote, hbackslash, hcontrol⟩, hbytes⟩ := h
    rw [List.cons_append, stringBody.eq_def]
    dsimp only
    rw [if_neg hquote, if_neg hcontrol, if_neg hbackslash, Option.map_some, ih hbytes,
      List.reverse_cons, List.append_assoc, List.singleton_append]

/-- An escape of one letter. -/
lemma stringBody_of_letter {e b : UInt8} (h : shortEscape? e = some b) :
    stringBody (some done) 0 ([0x5C, e] ++ rest) = stringBody (some (b :: done)) 0 rest := by
  have hletter : e ≠ 0x75 := by
    rintro rfl
    cases h
  rw [List.cons_append, List.singleton_append, stringBody.eq_def]
  simp [h, hletter, stringBody]

/-- An escape of four digits for a character that is no half of one. -/
lemma stringBody_of_digits {u v w x : UInt8} {n : Nat} (h : hex4? u v w x = some n)
    (hhigh : isHighHalf n = false) (hlow : isLowHalf n = false) :
    stringBody (some done) 0 ([0x5C, 0x75, u, v, w, x] ++ rest) =
      stringBody (some (pushChar done (Char.ofNat n))) 0 rest := by
  simp [stringBody, h, hhigh, hlow]

/-- A control is written with its number. -/
lemma stringBody_controlEscape {c : Char} (h : c.toNat < 0x20) :
    stringBody (some done) 0 (Utf8.encode (controlEscape c) ++ rest) =
      stringBody (some (pushChar done c)) 0 rest := by
  have hwritten : ∀ n < 0x20, Utf8.encode (controlEscape (Char.ofNat n)) = [0x5C, 0x75, 0x30, 0x30,
      UInt8.ofNat (Hex.digit (n / 16)).toNat, UInt8.ofNat (Hex.digit (n % 16)).toNat] := by
    decide +kernel
  have hread : ∀ n < 0x20, hex4? 0x30 0x30 (UInt8.ofNat (Hex.digit (n / 16)).toNat)
      (UInt8.ofNat (Hex.digit (n % 16)).toNat) = some n := by decide
  have hhalf : ∀ n < 0x20, isHighHalf n = false ∧ isLowHalf n = false := by decide
  have hencode := hwritten c.toNat h
  rw [Char.ofNat_toNat] at hencode
  rw [hencode, stringBody_of_digits (hread _ h) (hhalf _ h).1 (hhalf _ h).2, Char.ofNat_toNat]

/-- A character that is no quote, no backslash and no control is written as itself. -/
lemma stringBody_singleton {c : Char} (hquote : c ≠ '"') (hbackslash : c ≠ '\\')
    (hcontrol : ¬ c.toNat < 0x20) :
    stringBody (some done) 0 (Utf8.encode (String.singleton c) ++ rest) =
      stringBody (some (pushChar done c)) 0 rest := by
  rw [stringBody_of_plain, pushChar]
  rw [Utf8.encode_singleton]
  by_cases hlt : c.toNat < 0x80
  · rw [Utf8.encodeChar_of_lt hlt]
    have hbyte : (UInt8.ofNat c.toNat).toNat = c.toNat := by
      rw [UInt8.toNat_ofNat', Nat.mod_eq_of_lt (by omega)]
    have hne (d : Char) (hd : c ≠ d) (hd' : d.toNat < 256) :
        UInt8.ofNat c.toNat ≠ UInt8.ofNat d.toNat := by
      intro h
      rw [← UInt8.toNat_inj, hbyte, UInt8.toNat_ofNat', Nat.mod_eq_of_lt hd'] at h
      exact hd (Char.toNat_inj.1 h)
    rw [List.forall_mem_singleton]
    refine ⟨hne '"' hquote (by decide), hne '\\' hbackslash (by decide), ?_⟩
    rw [UInt8.lt_iff_toNat_lt, hbyte]
    exact hcontrol
  · intro b hb
    have hle : 0x80 ≤ b := Utf8.le_of_mem_encodeChar (not_lt.1 hlt) b hb
    refine ⟨?_, ?_, fun hcontrol => ?_⟩
    · rintro rfl
      exact absurd hle (by decide)
    · rintro rfl
      exact absurd hle (by decide)
    · exact absurd (UInt8.lt_of_le_of_lt hle hcontrol) (by decide)

/-- Every character is read back from how it is written. -/
lemma stringBody_escape (c : Char) :
    stringBody (some done) 0 (Utf8.encode (escape c) ++ rest) =
      stringBody (some (pushChar done c)) 0 rest := by
  rw [escape]
  split_ifs with hquote hbackslash h₁ h₂ h₃ h₄ h₅ hcontrol
  · subst hquote
    exact stringBody_of_letter rfl
  · subst hbackslash
    exact stringBody_of_letter rfl
  · subst h₁
    exact stringBody_of_letter rfl
  · subst h₂
    exact stringBody_of_letter rfl
  · subst h₃
    exact stringBody_of_letter rfl
  · subst h₄
    exact stringBody_of_letter rfl
  · subst h₅
    exact stringBody_of_letter rfl
  · exact stringBody_controlEscape hcontrol
  · exact stringBody_singleton hquote hbackslash hcontrol

end

/-- What stands after the opening quote of a string. -/
def closing (s : String) : Bytes := s.toList.flatMap (fun c => Utf8.encode (escape c)) ++ [0x22]

lemma encode_quote (s : String) : Utf8.encode (quote s) = 0x22 :: closing s := by
  have hfold (l : List Char) (t : String) :
      Utf8.encode (l.foldl (fun done c => done ++ escape c) t) =
        Utf8.encode t ++ l.flatMap fun c => Utf8.encode (escape c) := by
    induction l generalizing t with
    | nil => simp
    | cons c l ih =>
      rw [List.foldl_cons, ih, Utf8.encode_append, List.flatMap_cons, List.append_assoc]
  rw [quote, Utf8.encode_append, Utf8.encode_append, String.foldl_eq_foldl_toList, hfold]
  rfl

/-- Every string is read back, whatever follows it. -/
lemma string?_closing (s : String) (rest : Bytes) :
    string? (closing s ++ rest) = some (some s, rest) := by
  have hbody (l : List Char) (done : Bytes) :
      stringBody (some done) 0 (l.flatMap (fun c => Utf8.encode (escape c)) ++ (0x22 :: rest)) =
        some (some (done.reverse ++ l.flatMap String.utf8EncodeChar), rest) := by
    induction l generalizing done with
    | nil => simp [stringBody]
    | cons c l ih =>
      rw [List.flatMap_cons, List.append_assoc, stringBody_escape, ih, pushChar,
        Utf8.encode_singleton, List.reverse_append, List.reverse_reverse, List.flatMap_cons,
        List.append_assoc]
  rw [closing, List.append_assoc, List.singleton_append, string?, hbody]
  simp [← Utf8.encode_eq_flatMap, Utf8.decode?_encode]

/-! ### Numbers -/

/-- Nothing goes on with a number. -/
def Delimits (rest : Bytes) : Prop :=
  ∀ b ∈ rest.head?, isDigit b = false ∧ b ≠ 0x2E ∧ b ≠ 0x65 ∧ b ≠ 0x45

lemma delimits_cons {b : UInt8} (rest : Bytes)
    (h : isDigit b = false ∧ b ≠ 0x2E ∧ b ≠ 0x65 ∧ b ≠ 0x45) : Delimits (b :: rest) := by
  simpa [Delimits] using h

/-- The digits of a number, as bytes. -/
def digits (n : Nat) : Bytes := (Nat.toDigits 10 n).map fun c => UInt8.ofNat c.toNat

lemma isDigit_of_mem_toDigits {n : Nat} {c : Char} (h : c ∈ Nat.toDigits 10 n) :
    48 ≤ c.toNat ∧ c.toNat ≤ 57 := by
  have hdigit := Nat.isDigit_of_mem_toDigits (by decide) le_rfl h
  rw [Char.isDigit, Bool.and_eq_true, decide_eq_true_iff, decide_eq_true_iff] at hdigit
  exact hdigit

lemma encode_toString_nat (n : Nat) : Utf8.encode (toString n) = digits n := by
  refine Utf8.encode_of_forall_lt fun c hc => ?_
  have hdigit := isDigit_of_mem_toDigits hc
  omega

lemma isDigit_of_mem_digits {n : Nat} : ∀ b ∈ digits n, isDigit b = true := by
  intro b hb
  obtain ⟨c, hc, rfl⟩ := List.mem_map.1 hb
  have hdigit := isDigit_of_mem_toDigits hc
  rw [isDigit, Bool.and_eq_true, decide_eq_true_iff, decide_eq_true_iff, UInt8.le_iff_toNat_le,
    UInt8.le_iff_toNat_le, UInt8.toNat_ofNat', Nat.mod_eq_of_lt (by omega)]
  exact hdigit

lemma digits_ne_nil (n : Nat) : digits n ≠ [] := by simp [digits, Nat.toDigits_ne_nil]

/-- The digits write the number. -/
lemma ofDigits_digits (n : Nat) : ofDigits (digits n) = n := by
  calc ofDigits (digits n)
      = (Nat.toDigits 10 n).foldl (fun n c => n * 10 + ((UInt8.ofNat c.toNat).toNat - 0x30)) 0 := by
        rw [ofDigits, digits, List.foldl_map]
    _ = (Nat.toDigits 10 n).foldl (fun n c => 10 * n + (c.toNat - '0'.toNat)) 0 := by
        refine List.foldl_ext _ _ _ fun k c hc => ?_
        have hdigit := isDigit_of_mem_toDigits hc
        rw [UInt8.toNat_ofNat', Nat.mod_eq_of_lt (by omega), Nat.mul_comm]
        rfl
    _ = n := by
        rw [← Nat.ofDigitChars_eq_foldl]
        exact Nat.ofDigitChars_toDigits (by decide) le_rfl

/-- Only zero is written with a zero in front. -/
lemma head?_digits {n : Nat} (h : n ≠ 0) : (digits n).head? ≠ some 0x30 := by
  induction n using Nat.strong_induction_on with
  | _ n ih =>
    rw [digits, Nat.toDigits_eq_if (by decide)]
    split_ifs with hlt
    · have hall : ∀ n < 10, n ≠ 0 → UInt8.ofNat n.digitChar.toNat ≠ 0x30 := by decide
      simpa using hall n hlt h
    · have hfirst := ih (n / 10) (by omega) (by omega)
      rw [List.map_append, List.head?_append_of_ne_nil _ (by simp [Nat.toDigits_ne_nil])]
      exact hfirst

lemma fraction?_of_delimits {rest : Bytes} (h : Delimits rest) :
    fraction? rest = some (false, rest) := by
  rw [fraction?.eq_def]
  split
  next => exact absurd rfl (h _ rfl).2.1
  next => rfl

lemma exponent?_of_delimits {rest : Bytes} (h : Delimits rest) :
    exponent? rest = some (false, rest) := by
  cases rest with
  | nil => rfl
  | cons b rest =>
    obtain ⟨-, -, hsmall, hgreat⟩ := h b rfl
    rw [exponent?, if_neg (by simp [hsmall, hgreat])]

/-- A number is read up to where nothing goes on with it. -/
lemma number?_digits (isNegative : Bool) (n : Nat) {rest : Bytes} (h : Delimits rest)
    (hsign : isNegative = true → n ≠ 0) :
    number? isNegative (digits n ++ rest) =
      some (.int (if isNegative then -n else n), rest) := by
  have hrest : rest.takeWhile isDigit = [] ∧ rest.dropWhile isDigit = rest := by
    cases rest with
    | nil => exact ⟨rfl, rfl⟩
    | cons b rest => simp [(h b rfl).1]
  have htake : (digits n ++ rest).takeWhile isDigit = digits n := by
    rw [List.takeWhile_append_of_pos isDigit_of_mem_digits, hrest.1, List.append_nil]
  have hdrop : (digits n ++ rest).dropWhile isDigit = rest := by
    rw [List.dropWhile_append_of_pos isDigit_of_mem_digits, hrest.2]
  have hne := digits_ne_nil n
  have hzero : ¬ ((digits n).head? = some 0x30 ∧ 1 < (digits n).length) := by
    rintro ⟨hhead, hlength⟩
    have hn : n = 0 := by
      by_contra hn
      exact head?_digits hn hhead
    subst hn
    exact absurd hlength (by decide)
  have hwhole : (isNegative && decide (n = 0)) = false := by
    cases isNegative with
    | false => rfl
    | true => simpa using hsign rfl
  rw [number?, htake, hdrop, fraction?_of_delimits h]
  simp only [Option.bind_eq_bind, Option.bind_some, exponent?_of_delimits h, ofDigits_digits,
    Bool.false_or, hwhole]
  rw [if_neg (by simp [hne, hzero])]
  rfl

end TagCatalog.Json
