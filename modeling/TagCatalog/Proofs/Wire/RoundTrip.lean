import Mathlib.Tactic
import TagCatalog.Proofs.Wire.ReadBack
import TagCatalog.Proofs.Wire.Responses

/-!
Records and results are read back as they are written.

* `RecordStream.collect_of_encodeRecords`: a run over records as they are written,
  by induction on the records.
* `SearchResult.delivered`: what is left of a result on the other side.
* `flat_roundTrip`: the round trip of records of any fields, and that of results.
-/

namespace TagCatalog

open Wire

/-- The result on the other side: records are padded to the fields that any of them
has, and take the shape of these fields. -/
def SearchResult.delivered : SearchResult → SearchResult
  | ids l => ids l
  | hashes l => hashes l
  | images records =>
    ofRecords (.covering records) (records.map (·.padded (.covering records)))

namespace Wire

/-! ### Records -/

/-- A record of selected fields is written in some bytes. -/
lemma encodeRecord_ne_nil {fields : FieldSet} (hf : fields ≠ .none) (r : ImageRecord) :
    encodeRecord fields r ≠ [] := by
  intro h
  have hid : FieldList.encodeId (r.id.getD 0) ≠ [] :=
    List.ne_nil_of_length_pos (by rw [FieldList.encodeId, LittleEndian.length_encode]; decide)
  have hhash : (r.hash.getD .zero).bytes ≠ [] :=
    List.ne_nil_of_length_pos (by rw [ImageHash.length_bytes]; decide)
  have hcount (n : Nat) : encodeCount n ≠ [] :=
    List.ne_nil_of_length_pos (Numeral.one_le_length_encode _)
  obtain ⟨ids, hashes, tags, attributes⟩ := fields
  simp [encodeRecord, encodeTags, encodeAttributes, hid, hhash, hcount] at h
  exact hf (by rw [h.1, h.2.1, h.2.2.1, h.2.2.2, FieldSet.none])

namespace RecordStream

variable {fields : FieldSet}

/-- A run over records as they are written answers them all, or refuses the first
text that is too long. -/
lemma collect_of_encodeRecords (hf : fields ≠ .none) {records : List ImageRecord}
    (h : (encodeRecords fields records).length < UInt64.size) (done : List ImageRecord)
    {c : Cursor} (hc : c.rest = encodeRecords fields records) :
    ((∀ r ∈ records, r.IsShort fields) →
      collect done ⟨fields, c, false⟩
        = .ok (done.reverse ++ records.map (·.padded fields))) ∧
    ((¬ ∀ r ∈ records, r.IsShort fields) →
      ∃ e, collect done ⟨fields, c, false⟩ = .error e ∧ e.IsLongText) := by
  -- on the records; those before are in `done`, those after follow the cursor
  induction records generalizing done c with
  | nil =>
    rw [collect_of_exhausted hc]
    simp
  | cons r records ih =>
    rw [encodeRecords, List.flatMap_cons] at h hc
    rw [List.length_append] at h
    have hne : c.rest ≠ [] := by
      rw [hc]
      exact List.append_ne_nil_of_left_ne_nil (encodeRecord_ne_nil hf r) _
    let c' : Cursor := ⟨encodeRecords fields records, c.offset + (encodeRecord fields r).length⟩
    have hp : c.Passes (encodeRecord fields r) c' := ⟨hc, rfl⟩
    obtain ⟨hok, herr⟩ := Read.readsBack_record (lt_of_le_of_lt (Nat.le_add_right _ _) h) c c' hp
    obtain ⟨ihok, iherr⟩ := ih (lt_of_le_of_lt (Nat.le_add_left _ _) h)
      (r.padded fields :: done) (c := c') rfl
    rw [List.forall_mem_cons]
    constructor
    · rintro ⟨hr, hrest⟩
      rw [collect_of_ok hf hne (hok hr), ihok hrest]
      simp
    · intro hn
      by_cases hr : r.IsShort fields
      · rw [collect_of_ok hf hne (hok hr)]
        exact iherr fun hrest => hn ⟨hr, hrest⟩
      · obtain ⟨e, c₁, he, hlong⟩ := herr hr
        exact ⟨e, collect_of_error hf hne he, hlong⟩

end RecordStream

/-- Records without texts that are too long are read back, padded. -/
lemma decodeRecords_encodeRecords {fields : FieldSet} (hf : fields ≠ .none)
    {records : List ImageRecord} (h : (encodeRecords fields records).length < UInt64.size)
    (hshort : ∀ r ∈ records, r.IsShort fields) :
    decodeRecords fields (encodeRecords fields records)
      = .ok (records.map (·.padded fields)) :=
  (RecordStream.collect_of_encodeRecords hf h [] rfl).1 hshort

/-! ### Results -/

/-- Ids alone are padded already. -/
lemma padded_ofId (id : UInt32) : (ImageRecord.ofId id).padded .onlyIds = .ofId id := rfl

/-- Hashes alone are padded already. -/
lemma padded_ofHash (hash : ImageHash) :
    (ImageRecord.ofHash hash).padded .onlyHashes = .ofHash hash := rfl

/-- Padded records take the shape in which a result is delivered. -/
lemma ofRecords_padded (result : SearchResult) :
    .ofRecords result.fields (result.toRecords.map (·.padded result.fields))
      = result.delivered := by
  match result with
  | .ids [] => rfl
  | .ids (id :: ids) =>
    simp only [SearchResult.fields, SearchResult.toRecords, List.map_map, Function.comp_def,
      padded_ofId, SearchResult.delivered]
    exact SearchResult.ofRecords_onlyIds (id :: ids)
  | .hashes hashes =>
    simp only [SearchResult.fields, SearchResult.toRecords, List.map_map, Function.comp_def,
      padded_ofHash, SearchResult.delivered]
    exact SearchResult.ofRecords_onlyHashes hashes
  | .images records => rfl

/-- A result without texts that are too long is read back as it is delivered. -/
lemma decodeResponse_encodeResponse {result : SearchResult}
    (hshort : ∀ r ∈ result.toRecords, r.IsShort result.fields)
    (h : (encodeResponse result).length ≤ maxResponseSize) :
    decodeResponse (encodeResponse result) = .ok result.delivered := by
  rw [encodeResponse_eq] at h ⊢
  by_cases hf : result.fields = .none
  · have hnil : decodeRecords .none (encodeRecords .none result.toRecords) = .ok [] := by
      rw [encodeRecords_none, decodeRecords_nil]
    have hdelivered := ofRecords_padded result
    rw [hf] at h hdelivered ⊢
    rw [decodeResponse_of_decodeRecords h hnil, ← hdelivered]
    rfl
  · have hword : maxResponseSize < UInt64.size := by decide
    have hpayload : (encodeRecords result.fields result.toRecords).length < UInt64.size := by
      rw [List.length_append] at h
      omega
    rw [decodeResponse_of_decodeRecords h (decodeRecords_encodeRecords hf hpayload hshort),
      ofRecords_padded]

/-- **What is written is read back.** With a field selected, records of which no text
that is written is too long are read back one for one, each with just these fields,
its own or the filler; if a text is too long, just this is the error. So a result
whose texts are short and whose response is not too long is read back as it is
delivered: ids and hashes as they are, records padded to the fields that any of them
has and in the shape of these fields. That the bytes of a payload are counted by a
machine word is no restriction. -/
theorem flat_roundTrip :
    (∀ fields records, fields ≠ .none →
      (encodeRecords fields records).length < UInt64.size →
      ((∀ r ∈ records, r.IsShort fields) →
        decodeRecords fields (encodeRecords fields records)
          = .ok (records.map (·.padded fields))) ∧
      ((¬ ∀ r ∈ records, r.IsShort fields) →
        ∃ e, decodeRecords fields (encodeRecords fields records) = .error e ∧ e.IsLongText)) ∧
    ∀ result : SearchResult, (∀ r ∈ result.toRecords, r.IsShort result.fields) →
      (encodeResponse result).length ≤ maxResponseSize →
      decodeResponse (encodeResponse result) = .ok result.delivered :=
  ⟨fun _ _ hf h => RecordStream.collect_of_encodeRecords hf h [] rfl,
    fun _ hshort h => decodeResponse_encodeResponse hshort h⟩

/-- A text of so many letters has so many bytes. -/
lemma utf8ByteSize_pushn (n : Nat) : ("".pushn 'k' n).utf8ByteSize = n := by
  rw [String.pushn_eq_repeat_push]
  induction n with
  | zero => rfl
  | succ n ih =>
    rw [Nat.repeat, String.utf8ByteSize_push, ih]
    rfl

/-- Records of ids and attributes, one of them blank, are read back; a key of one
letter too many is refused. -/
theorem flat_roundTrip_idsAndAttributes :
    let fields : FieldSet := ⟨true, false, false, true⟩
    let keyOf (n : Nat) : AttributeMap := (∅ : AttributeMap).insert ("".pushn 'k' n) ∅
    let records : List ImageRecord := [⟨some 7, none, none, some (keyOf 3)⟩, .blank]
    let padded : List ImageRecord :=
      [⟨some 7, none, none, some (keyOf 3)⟩, ⟨some 0, none, none, some ∅⟩]
    let long : List ImageRecord := [⟨some 7, none, none, some (keyOf (maxStringLength + 1))⟩]
    decodeRecords fields (encodeRecords fields records) = .ok padded ∧
      (∃ e, decodeRecords fields (encodeRecords fields long) = .error e ∧ e.IsLongText) ∧
      decodeResponse (encodeResponse (.images records)) = .ok (.images padded) := by
  intro fields keyOf records padded long
  have hf : fields ≠ .none := by decide
  have hsize : (Utf8.encode ("".pushn 'k' (maxStringLength + 1))).length
      = maxStringLength + 1 := by
    rw [Utf8.length_encode, utf8ByteSize_pushn]
  have hlong : (encodeRecords fields long).length < UInt64.size := by
    have hid : (FieldList.encodeId 7).length = 4 := by decide
    have hcount : (encodeCount (maxStringLength + 1)).length = 5 := by decide
    have hzero : (encodeCount 0).length = 1 := by decide
    have hone : (encodeCount 1).length = 1 := by decide
    simp [fields, long, keyOf, encodeRecords, encodeRecord, encodeAttributes, encodeKey,
      encodeString, OrderedMap.insert, OrderedMap.place, OrderedMap.size, hsize, hid, hcount,
      hzero, hone]
    decide
  have hrefused : ¬ ∀ r ∈ long, r.IsShort fields := by
    intro h
    have hkey := (h _ (List.mem_singleton_self _) rfl _ (List.mem_singleton_self _)).1
    simp only [Text.IsShort, hsize] at hkey
    omega
  exact ⟨(flat_roundTrip.1 fields records hf (by decide)).1 (by decide),
    (flat_roundTrip.1 fields long hf hlong).2 hrefused,
    flat_roundTrip.2 (.images records) (by decide) (by decide)⟩

end Wire

end TagCatalog
