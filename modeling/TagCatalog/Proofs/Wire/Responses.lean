import Mathlib.Tactic
import TagCatalog.Proofs.Wire.SingleField

/-!
Responses as a header and records.

Bare lists are records of a single field, so each response is written as the
records of some fields behind a header, and is read as such.

* `Header.decode_encode`, `Header.length_of_decode`: what a header that is read says
  of the response.
* `SearchResult.fields`, `encodeResponse_eq`: the fields that are written for a
  result.
* `SearchResult.ofRecords`, `decodeResponse_eq`: the shape that records of given
  fields take.
-/

namespace TagCatalog

open Wire

namespace SearchResult

/-- The fields that are written for a result. -/
def fields : SearchResult → FieldSet
  | ids [] => .none
  | ids _ => .onlyIds
  | hashes _ => .onlyHashes
  | images records => .covering records

/-- The result that records of these fields are read as. -/
def ofRecords (fields : FieldSet) (records : List ImageRecord) : SearchResult :=
  if fields = .onlyIds then ids (records.map fun r => r.id.getD 0)
  else if fields = .onlyHashes then hashes (records.map fun r => r.hash.getD .zero)
  else if fields = .none then ids []
  else images records

/-- Records of ids alone are ids. -/
lemma ofRecords_onlyIds (l : List UInt32) : ofRecords .onlyIds (l.map .ofId) = ids l := by
  have hid : (fun r => r.id.getD 0) ∘ ImageRecord.ofId = id := rfl
  rw [ofRecords, if_pos rfl, List.map_map, hid, List.map_id]

/-- Records of hashes alone are hashes. -/
lemma ofRecords_onlyHashes (l : List ImageHash) :
    ofRecords .onlyHashes (l.map .ofHash) = hashes l := by
  have hhash : (fun r => r.hash.getD ImageHash.zero) ∘ ImageRecord.ofHash = id := rfl
  rw [ofRecords, if_neg (by decide), if_pos rfl, List.map_map, hhash, List.map_id]

end SearchResult

namespace Wire

/-! ### Headers -/

/-- Fields are read back from the byte that selects them. -/
lemma FieldSet.ofByte_toByte (fields : FieldSet) : FieldSet.ofByte fields.toByte = .ok fields := by
  obtain ⟨ids, hashes, tags, attributes⟩ := fields
  cases ids <;> cases hashes <;> cases tags <;> cases attributes <;> decide

namespace Header

/-- A header is read back in front of a payload that is not too long. -/
lemma decode_encode {fields : FieldSet} {payload : Bytes}
    (h : (encode fields ++ payload).length ≤ maxResponseSize) :
    decode (encode fields ++ payload) = .ok fields := by
  have htake : (encode fields ++ payload).take 3 = magic := rfl
  have hbyte : (encode fields ++ payload)[3]? = some fields.toByte := rfl
  have hsize : checkSize (encode fields ++ payload).length = .ok () := if_neg (Nat.not_lt.2 h)
  rw [decode, if_neg (not_not_intro htake), hbyte]
  simp only [FieldSet.ofByte_toByte, hsize, bind, Except.bind, pure, Except.pure]

/-- A response whose header is read has a header, and is not too long. -/
lemma length_of_decode {response : Bytes} {fields : FieldSet}
    (h : decode response = .ok fields) :
    headerLength ≤ response.length ∧ response.length ≤ maxResponseSize := by
  rw [decode] at h
  split_ifs at h
  cases hbyte : response[3]? with
  | none =>
    rw [hbyte] at h
    cases h
  | some b =>
    have hlength := (List.getElem?_eq_some_iff.1 hbyte).1
    refine ⟨hlength, Nat.not_lt.1 fun hlong => ?_⟩
    rw [hbyte] at h
    cases hfields : FieldSet.ofByte b with
    | error e => simp [hfields, bind, Except.bind] at h
    | ok s => simp [hfields, checkSize, hlong, bind, Except.bind] at h

end Header

/-! ### Writing -/

/-- No field of a record is no bytes. -/
lemma encodeRecords_none (records : List ImageRecord) : encodeRecords .none records = [] := by
  rw [encodeRecords, List.flatMap_eq_nil_iff]
  intro r _
  rfl

/-- A response is written as a header and the records behind it. -/
lemma encodeResponse_eq (result : SearchResult) :
    encodeResponse result
      = Header.encode result.fields ++ encodeRecords result.fields result.toRecords := by
  match result with
  | .ids [] => rfl
  | .ids (id :: ids) => exact congrArg (_ ++ ·) (FieldList.encodeIds_eq (id :: ids))
  | .hashes hashes => exact congrArg (_ ++ ·) (FieldList.encodeHashes_eq hashes)
  | .images records => rfl

/-! ### Reading -/

/-- Without fields no bytes are read. -/
lemma decodeRecords_none {payload : Bytes} (h : payload ≠ []) :
    decodeRecords .none payload = .error (.malformed headerLength (.noFields payload.length)) := by
  let s := RecordStream.ofPayload .none payload
  have hmore : ¬ (s.failed || s.cursor.rest.isEmpty) = true := by
    simp [s, RecordStream.ofPayload, h]
  have hfields : s.fields = .none := rfl
  have hnext : s.next = (some (.error (.malformed headerLength (.noFields payload.length))),
      { s with failed := true }) := by
    rw [RecordStream.next, if_neg hmore, if_pos hfields]
    rfl
  exact RecordStream.collect_of_next_error hnext

/-- A response is read as its header and the records behind it. -/
lemma decodeResponse_eq (response : Bytes) :
    decodeResponse response = (Header.decode response).bind fun fields =>
      (decodeRecords fields (response.drop headerLength)).map (SearchResult.ofRecords fields) := by
  rw [decodeResponse]
  cases Header.decode response with
  | error e => rfl
  | ok fields =>
    simp only [bind, Except.bind, pure, Except.pure]
    by_cases hids : fields = .onlyIds
    · subst hids
      rw [if_pos rfl, decodeRecords_onlyIds]
      cases FieldList.decodeIds (response.drop headerLength) with
      | error e => rfl
      | ok ids => exact congrArg Except.ok (SearchResult.ofRecords_onlyIds ids).symm
    · by_cases hhashes : fields = .onlyHashes
      · subst hhashes
        rw [if_neg hids, if_pos rfl, decodeRecords_onlyHashes]
        cases FieldList.decodeHashes (response.drop headerLength) with
        | error e => rfl
        | ok hashes => exact congrArg Except.ok (SearchResult.ofRecords_onlyHashes hashes).symm
      · rw [if_neg hids, if_neg hhashes]
        by_cases hnone : fields = .none
        · subst hnone
          by_cases hpayload : response.drop headerLength = []
          · rw [if_pos ⟨rfl, hpayload⟩, hpayload, decodeRecords_nil]
            rfl
          · rw [if_neg fun h => hpayload h.2, decodeRecords_none hpayload]
            rfl
        · have hshape : SearchResult.ofRecords fields = .images := by
            funext records
            rw [SearchResult.ofRecords, if_neg hids, if_neg hhashes, if_neg hnone]
          rw [if_neg fun h => hnone h.1, hshape]
          cases decodeRecords fields (response.drop headerLength) <;> rfl

/-- A response is answered if its header and the records behind it are. -/
lemma decodeResponse_eq_ok_iff {response : Bytes} {result : SearchResult} :
    decodeResponse response = .ok result ↔ ∃ fields records,
      Header.decode response = .ok fields ∧
      decodeRecords fields (response.drop headerLength) = .ok records ∧
      result = .ofRecords fields records := by
  rw [decodeResponse_eq]
  constructor
  · intro h
    cases hheader : Header.decode response with
    | error e =>
      rw [hheader] at h
      cases h
    | ok fields =>
      rw [hheader, Except.bind] at h
      cases hrecords : decodeRecords fields (response.drop headerLength) with
      | error e =>
        rw [hrecords] at h
        cases h
      | ok records =>
        rw [hrecords] at h
        exact ⟨fields, records, rfl, hrecords, (Except.ok.inj h).symm⟩
  · rintro ⟨fields, records, hheader, hrecords, rfl⟩
    rw [hheader, Except.bind, hrecords, Except.map]

/-- A response is refused if its header is, or the records behind it are. -/
lemma decodeResponse_eq_error_iff {response : Bytes} {e : DecodeError} :
    decodeResponse response = .error e ↔ Header.decode response = .error e ∨
      ∃ fields, Header.decode response = .ok fields ∧
        decodeRecords fields (response.drop headerLength) = .error e := by
  rw [decodeResponse_eq]
  cases Header.decode response with
  | error e' => simp [Except.bind]
  | ok fields =>
    cases hrecords : decodeRecords fields (response.drop headerLength) with
    | error e' => simp [Except.bind, Except.map, hrecords]
    | ok records => simp [Except.bind, Except.map, hrecords]

/-- The answer for a header and a payload that is not too long. -/
lemma decodeResponse_of_decodeRecords {fields : FieldSet} {payload : Bytes}
    {records : List ImageRecord} (h : (Header.encode fields ++ payload).length ≤ maxResponseSize)
    (hrecords : decodeRecords fields payload = .ok records) :
    decodeResponse (Header.encode fields ++ payload) = .ok (.ofRecords fields records) :=
  decodeResponse_eq_ok_iff.2 ⟨fields, records, Header.decode_encode h, hrecords, rfl⟩

end Wire

end TagCatalog
