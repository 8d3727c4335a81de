import Mathlib.Tactic
import TagCatalog.Proofs.Wire.Responses

/-!
What the first four bytes of a response decide.

* `FieldSet.exists_eq_toByte_iff`: the bytes that select fields are those whose
  upper half is zero.
* `Header.decode_encode_append`: behind a header only the size of the response is
  left to be looked at; `Header.decode_of_forall_ne`: without one the response is
  refused for its header.
* `Header.decode_eq_ok_iff`, `Header.decode_eq_header_iff`,
  `Header.eq_tooLarge_of_decode`: which responses give which of the three answers.
-/

namespace TagCatalog.Wire

/-- What holds of the numbers below 256 holds of all bytes. -/
lemma forall_byte {p : UInt8 → Prop} (h : ∀ n < UInt8.size, p (UInt8.ofNat n)) (b : UInt8) :
    p b := by
  have hb := h b.toNat b.toNat_lt
  rwa [UInt8.ofNat_toNat] at hb

namespace FieldSet

/-- The fields that the lower half of a byte selects. -/
def ofLowerHalf (b : UInt8) : FieldSet := ⟨b &&& 8 ≠ 0, b &&& 4 ≠ 0, b &&& 2 ≠ 0, b &&& 1 ≠ 0⟩

/-- A byte is the byte of the fields that it selects if none of its upper bits is
set. -/
lemma eq_toByte_iff (b : UInt8) :
    b = (ofLowerHalf b).toByte ↔ ∀ i, 4 ≤ i → i < 8 → b.toNat.testBit i = false := by
  revert b
  exact forall_byte (by decide +kernel)

/-- A byte that is not the byte of the fields that it selects has a reserved bit. -/
lemma eq_toByte_of_not_reserved (b : UInt8) : ¬ b &&& 0xF0 ≠ 0 → b = (ofLowerHalf b).toByte := by
  revert b
  exact forall_byte (by decide +kernel)

/-- The bytes that select fields are those whose upper half is zero. -/
lemma exists_eq_toByte_iff (b : UInt8) :
    (∃ fields : FieldSet, b = fields.toByte) ↔
      ∀ i, 4 ≤ i → i < 8 → b.toNat.testBit i = false := by
  constructor
  · rintro ⟨⟨ids, hashes, tags, attributes⟩, rfl⟩
    revert ids hashes tags attributes
    decide
  · intro h
    exact ⟨_, (eq_toByte_iff b).2 h⟩

end FieldSet

namespace Header

/-- A header is four bytes. -/
@[simp] lemma length_encode (fields : FieldSet) : (encode fields).length = headerLength := rfl

/-- The payload stands behind the header. -/
@[simp] lemma drop_encode_append (fields : FieldSet) (payload : Bytes) :
    (encode fields ++ payload).drop headerLength = payload := rfl

/-- A response is made of one header and one payload. -/
lemma encode_append_inj {fields fields' : FieldSet} {payload payload' : Bytes}
    (h : encode fields ++ payload = encode fields' ++ payload') :
    fields = fields' ∧ payload = payload' := by
  have hbyte : fields.toByte = fields'.toByte := by
    have hthird := congrArg (·[3]?) h
    exact Option.some.inj hthird
  have hfields := FieldSet.ofByte_toByte fields
  rw [hbyte, FieldSet.ofByte_toByte] at hfields
  exact ⟨(Except.ok.inj hfields).symm, congrArg (·.drop headerLength) h⟩

/-- Behind a header only the size of the response is left to be looked at. -/
lemma decode_encode_append (fields : FieldSet) (payload : Bytes) :
    decode (encode fields ++ payload) =
      if maxResponseSize < (encode fields ++ payload).length then
        .error (.malformed maxResponseSize (.tooLarge (encode fields ++ payload).length))
      else .ok fields := by
  have hdecode : decode (encode fields ++ payload) = (do
      let selected ← FieldSet.ofByte fields.toByte
      checkSize (encode fields ++ payload).length
      return selected) := rfl
  rw [hdecode, FieldSet.ofByte_toByte, checkSize]
  by_cases hsize : maxResponseSize < (encode fields ++ payload).length
  · rw [if_pos hsize, if_pos hsize]
    rfl
  · rw [if_neg hsize, if_neg hsize]
    rfl

/-- Without a header the response is refused for it. -/
lemma decode_of_forall_ne {response : Bytes}
    (h : ∀ fields payload, response ≠ encode fields ++ payload) :
    ∃ fault, decode response = .error (.header fault) := by
  rw [decode]
  by_cases hmagic : response.take 3 = magic
  · rw [if_neg (not_not_intro hmagic)]
    cases hflags : response[3]? with
    | none => exact ⟨_, rfl⟩
    | some flags =>
      obtain ⟨hlt, rfl⟩ := List.getElem?_eq_some_iff.1 hflags
      by_cases hreserved : response[3] &&& 0xF0 ≠ 0
      · refine ⟨.reservedFlags response[3], ?_⟩
        simp only [FieldSet.ofByte, if_pos hreserved]
        rfl
      · refine absurd ?_ (h (.ofLowerHalf response[3]) (response.drop 4))
        have hbyte := FieldSet.eq_toByte_of_not_reserved _ hreserved
        rw [encode, ← hbyte, ← hmagic, List.append_assoc, List.singleton_append,
          ← List.drop_eq_getElem_cons hlt, List.take_append_drop]
  · exact ⟨_, if_pos hmagic⟩

/-- A header is read if it stands in front and the response is not too long. -/
lemma decode_eq_ok_iff {response : Bytes} {fields : FieldSet} :
    decode response = .ok fields ↔
      response.length ≤ maxResponseSize ∧ ∃ payload, response = encode fields ++ payload := by
  constructor
  · intro h
    refine ⟨(length_of_decode h).2, ?_⟩
    by_contra hne
    by_cases hheader : ∃ fields payload, response = encode fields ++ payload
    · obtain ⟨fields', payload, rfl⟩ := hheader
      rw [decode_encode_append] at h
      split_ifs at h
      exact hne ⟨payload, by rw [Except.ok.inj h]⟩
    · push Not at hheader
      obtain ⟨fault, hfault⟩ := decode_of_forall_ne hheader
      rw [hfault] at h
      cases h
  · rintro ⟨hsize, payload, rfl⟩
    exact decode_encode hsize

/-- A response is refused for its header exactly if it does not begin with the magic
bytes and a byte of which no upper bit is set. -/
lemma decode_eq_header_iff {response : Bytes} :
    (∃ fault, decode response = .error (.header fault)) ↔
      ¬ ∃ flags payload, response = magic ++ flags :: payload ∧
        ∀ i, 4 ≤ i → i < 8 → flags.toNat.testBit i = false := by
  constructor
  · rintro ⟨fault, hfault⟩ ⟨flags, payload, rfl, hbits⟩
    obtain ⟨fields, rfl⟩ := (FieldSet.exists_eq_toByte_iff flags).2 hbits
    have hdecode := decode_encode_append fields payload
    rw [encode, List.append_assoc, List.singleton_append, hfault] at hdecode
    split_ifs at hdecode
    · cases Except.error.inj hdecode
  · intro h
    refine decode_of_forall_ne ?_
    rintro fields payload rfl
    refine h ⟨fields.toByte, payload, ?_, (FieldSet.exists_eq_toByte_iff _).1 ⟨fields, rfl⟩⟩
    rw [encode, List.append_assoc, List.singleton_append]

/-- The only other error is the size of the response. -/
lemma eq_tooLarge_of_decode {response : Bytes} {e : DecodeError}
    (h : decode response = .error e) (hheader : ∀ fault, e ≠ .header fault) :
    maxResponseSize < response.length ∧
      e = .malformed maxResponseSize (.tooLarge response.length) := by
  by_cases hencode : ∃ fields payload, response = encode fields ++ payload
  · obtain ⟨fields, payload, rfl⟩ := hencode
    rw [decode_encode_append] at h
    split_ifs at h with hsize
    exact ⟨hsize, (Except.error.inj h).symm⟩
  · push Not at hencode
    obtain ⟨fault, hfault⟩ := decode_of_forall_ne hencode
    rw [hfault] at h
    exact absurd (Except.error.inj h).symm (hheader fault)

end Header

end TagCatalog.Wire
