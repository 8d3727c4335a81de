import Mathlib.Tactic
import TagCatalog.Proofs.Wire.RoundTrip

/-!
A response that is read may be written anew.

What is read of a response has short texts and records of the same fields, so that
it can be written and read again; what is written anew wastes no bytes.

* `RecordForm.isShort_record`: the texts that are read are short.
* `FieldSet.covering_eq`, `ImageRecord.padded_eq_self`: records that have the same
  fields cover these, and are padded to them already.
* `exists_forms_of_decodeRecords`: records that are read are those of forms, so that
  they have the same fields and short texts and are written in no more bytes.
* `FieldSet.Describes`: records that have the same fields, and the results that are
  made of them.
* `reencoding_stable`: the second response is no longer than the first and is read as
  the same.
-/

namespace TagCatalog

open Wire

/-! ### Records of the same fields -/

namespace Wire.FieldSet

/-- Fields are those of either of themselves. -/
lemma union_self (fields : FieldSet) : fields.union fields = fields := by
  simp [union]

/-- Fields are those of either of none and themselves. -/
lemma none_union (fields : FieldSet) : none.union fields = fields := by
  simp [union, none]

/-- Records that have the same fields cover these, if there are any. -/
lemma covering_eq {fields : FieldSet} {records : List ImageRecord} (hne : records ≠ [])
    (h : ∀ r ∈ records, ofRecord r = fields) : covering records = fields := by
  have hfold : ∀ l : List ImageRecord, (∀ r ∈ l, ofRecord r = fields) →
      l.foldl (fun s r => s.union (ofRecord r)) fields = fields := by
    intro l hl
    induction l with
    | nil => rfl
    | cons r l ih =>
      rw [List.foldl_cons, hl r (by simp), union_self]
      exact ih fun s hs => hl s (by simp [hs])
  obtain ⟨r, records, rfl⟩ := List.exists_cons_of_ne_nil hne
  rw [covering, List.foldl_cons, h r (by simp), none_union]
  exact hfold records fun s hs => h s (by simp [hs])

end Wire.FieldSet

/-- A record is padded to its own fields already. -/
lemma ImageRecord.padded_eq_self {fields : FieldSet} {r : ImageRecord}
    (h : FieldSet.ofRecord r = fields) : r.padded fields = r := by
  subst h
  obtain ⟨id, hash, tags, attributes⟩ := r
  rw [padded, ImageRecord.mk.injEq]
  refine ⟨?_, ?_, ?_, ?_⟩
  · cases id <;> rfl
  · cases hash <;> rfl
  · cases tags <;> rfl
  · cases attributes <;> rfl

namespace Wire

/-! ### Texts that are read -/

/-- One more value that is read keeps the texts short. -/
lemma ValueForm.isShort_put {m : OrderedMap String UserId}
    (hm : ∀ v ∈ m.entries, Text.IsShort v.1) (t : ValueForm) :
    ∀ v ∈ (put m t).entries, Text.IsShort v.1 := by
  intro v hv
  rcases OrderedMap.mem_place hv with rfl | hv
  · exact t.value.short
  · exact hm v hv

/-- The texts of values that are read are short. -/
lemma ValueForm.isShort_foldl_put (l : List ValueForm) {m : OrderedMap String UserId}
    (hm : ∀ v ∈ m.entries, Text.IsShort v.1) :
    ∀ v ∈ (l.foldl put m).entries, Text.IsShort v.1 := by
  induction l generalizing m with
  | nil => exact hm
  | cons t l ih => exact ih (isShort_put hm t)

/-- One more key that is read keeps the texts short. -/
lemma KeyForm.isShort_put {m : AttributeMap} (hm : m.IsShort) (t : KeyForm) :
    (put m t).IsShort := by
  intro e he
  rcases OrderedMap.mem_place he with rfl | he
  · refine ⟨t.key.short, ValueForm.isShort_foldl_put _ ?_⟩
    cases hget : m.get? t.key.text with
    | none =>
      intro v hv
      cases hv
    | some old => exact (hm _ (OrderedMap.mem_entries_iff.2 hget)).2
  · exact hm e he

/-- The texts of keys that are read are short. -/
lemma KeyForm.isShort_foldl_put (l : List KeyForm) {m : AttributeMap} (hm : m.IsShort) :
    (l.foldl put m).IsShort := by
  induction l generalizing m with
  | nil => exact hm
  | cons t l ih => exact ih (isShort_put hm t)

/-- The texts of a record that is read are short. -/
lemma RecordForm.isShort_record (t : RecordForm) (fields : FieldSet) :
    t.record.IsShort fields := by
  have hempty : (∅ : AttributeMap).IsShort := fun e he => by cases he
  intro _
  cases h : t.attributes with
  | none =>
    rw [record, h]
    exact hempty
  | some attributes =>
    rw [record, h]
    exact KeyForm.isShort_foldl_put attributes.items hempty

/-- A record that is read has the fields that are written. -/
lemma RecordForm.ofRecord_record (t : RecordForm) : FieldSet.ofRecord t.record = t.fields := by
  simp only [FieldSet.ofRecord, record, fields, Option.isSome_map]

/-! ### Results that are read -/

/-- Records as a payload with these fields has them: each has just the fields, and
there are none if there is no field. -/
structure FieldSet.Describes (fields : FieldSet) (records : List ImageRecord) : Prop where
  same : ∀ r ∈ records, ofRecord r = fields
  of_none : fields = .none → records = []

namespace FieldSet.Describes

variable {fields : FieldSet} {records : List ImageRecord}

/-- The records are padded to their fields already. -/
lemma map_padded (h : fields.Describes records) : records.map (·.padded fields) = records :=
  (List.map_congr_left fun r hr => ImageRecord.padded_eq_self (h.same r hr)).trans
    (List.map_id' records)

/-- The shape of a result leaves its records what they are. -/
lemma toRecords_ofRecords (h : fields.Describes records) :
    (SearchResult.ofRecords fields records).toRecords = records := by
  have hpadded := h.map_padded
  rw [SearchResult.ofRecords]
  split_ifs with hids hhashes hnone
  · subst hids
    rw [SearchResult.toRecords, List.map_map]
    exact hpadded
  · subst hhashes
    rw [SearchResult.toRecords, List.map_map]
    exact hpadded
  · exact (h.of_none hnone).symm
  · rfl

/-- If there are records, the result is written with their fields. -/
lemma fields_ofRecords (h : fields.Describes records) (hne : records ≠ []) :
    (SearchResult.ofRecords fields records).fields = fields := by
  obtain ⟨r, rest, hcons⟩ := List.exists_cons_of_ne_nil hne
  rw [SearchResult.ofRecords]
  split_ifs with hids hhashes hnone
  · rw [hids, hcons]
    rfl
  · rw [hhashes]
    rfl
  · exact absurd (h.of_none hnone) hne
  · exact covering_eq hne h.same

/-- The result is written in no more bytes than its records with their fields. -/
lemma length_encodeResponse_le (h : fields.Describes records) :
    (encodeResponse (.ofRecords fields records)).length
      ≤ headerLength + (encodeRecords fields records).length := by
  have hheader (s : FieldSet) : (Header.encode s).length = headerLength := rfl
  rw [encodeResponse_eq, h.toRecords_ofRecords, List.length_append, hheader]
  by_cases hne : records = []
  · rw [hne]
    exact le_rfl
  · rw [h.fields_ofRecords hne]

/-- The result is delivered as it is, but for a list of no records. -/
lemma delivered_eq_self (h : fields.Describes records)
    (himages : SearchResult.ofRecords fields records ≠ .images []) :
    (SearchResult.ofRecords fields records).delivered = .ofRecords fields records := by
  by_cases hne : records = []
  · subst hne
    rw [SearchResult.ofRecords] at himages ⊢
    split_ifs at himages ⊢
    · rfl
    · rfl
    · rfl
    · exact absurd rfl himages
  · rw [← ofRecords_padded, h.fields_ofRecords hne, h.toRecords_ofRecords, h.map_padded]

end FieldSet.Describes

section

variable {fields : FieldSet} {payload : Bytes} {records : List ImageRecord}

/-- Records that are read are those of forms; without fields there are none. -/
lemma exists_forms_of_decodeRecords (h : decodeRecords fields payload = .ok records) :
    ∃ forms : List (RecordForm.Of fields), forms.flatMap (·.1.bytes) = payload ∧
      records = forms.map (·.1.record) ∧ (fields = .none → records = []) := by
  by_cases hf : fields = .none
  · subst hf
    have hnil : payload = [] := by
      by_contra hne
      rw [decodeRecords_none hne] at h
      cases h
    rw [hnil, decodeRecords_nil] at h
    obtain rfl := Except.ok.inj h
    exact ⟨[], hnil.symm, rfl, fun _ => rfl⟩
  · obtain ⟨forms, hbytes, hrecords⟩ := (decodeRecords_eq_ok_iff hf).1 h
    exact ⟨forms, hbytes, hrecords, fun hnone => absurd hnone hf⟩

/-- Records that are read have just the fields that are read. -/
lemma describes_of_decodeRecords (h : decodeRecords fields payload = .ok records) :
    fields.Describes records := by
  obtain ⟨forms, -, rfl, hnone⟩ := exists_forms_of_decodeRecords h
  refine ⟨fun r hr => ?_, hnone⟩
  obtain ⟨t, -, rfl⟩ := List.mem_map.1 hr
  rw [RecordForm.ofRecord_record, t.2]

/-- The texts of records that are read are short. -/
lemma isShort_of_decodeRecords (h : decodeRecords fields payload = .ok records) :
    ∀ r ∈ records, ∀ selected, r.IsShort selected := by
  obtain ⟨forms, -, rfl, -⟩ := exists_forms_of_decodeRecords h
  intro r hr
  obtain ⟨t, -, rfl⟩ := List.mem_map.1 hr
  exact t.1.isShort_record

/-- Records that are read are written in no more bytes than they were read from. -/
lemma length_encodeRecords_le_of_decodeRecords (h : decodeRecords fields payload = .ok records)
    (hpayload : payload.length < UInt32.size) :
    (encodeRecords fields records).length ≤ payload.length := by
  obtain ⟨forms, rfl, rfl, -⟩ := exists_forms_of_decodeRecords h
  exact RecordForm.length_encodeRecords_le hpayload

end

/-- **What is read may be written anew.** If a response is read as a result, the
response that is written for the result is no longer than the first one and is read
as well, as a result of the same records. It is read as the same result, but for a
list of no records, which becomes the list of no ids. -/
theorem reencoding_stable {response : Bytes} {result : SearchResult}
    (h : decodeResponse response = .ok result) :
    (encodeResponse result).length ≤ response.length ∧
    ∃ result', decodeResponse (encodeResponse result) = .ok result' ∧
      result'.toRecords = result.toRecords ∧
      (result ≠ .images [] → result' = result) ∧
      (result = .images [] → result' = .ids []) := by
  obtain ⟨fields, records, hheader, hread, hresult⟩ := decodeResponse_eq_ok_iff.1 h
  obtain ⟨hle, hmax⟩ := Header.length_of_decode hheader
  have hrecords := describes_of_decodeRecords hread
  have hlength : (encodeResponse result).length ≤ response.length := by
    have hword : maxResponseSize < UInt32.size := by decide
    have hdrop : (response.drop headerLength).length = response.length - headerLength :=
      List.length_drop
    have hshorter := length_encodeRecords_le_of_decodeRecords hread (by omega)
    have hwritten := hrecords.length_encodeResponse_le
    rw [hresult]
    omega
  have hshort : ∀ r ∈ result.toRecords, r.IsShort result.fields := by
    intro r hr
    rw [hresult, hrecords.toRecords_ofRecords] at hr
    exact isShort_of_decodeRecords hread r hr _
  have hself : result ≠ .images [] → result.delivered = result := by
    rw [hresult]
    exact hrecords.delivered_eq_self
  refine ⟨hlength, result.delivered,
    decodeResponse_encodeResponse hshort (hlength.trans hmax), ?_, hself, ?_⟩
  · by_cases himages : result = .images []
    · rw [himages]
      rfl
    · rw [hself himages]
  · intro himages
    rw [himages]
    rfl

/-- A response of eleven bytes, with two users for one tag and their number in three
bytes, is written anew in seven. -/
theorem reencoding_stable_repeatedTag :
    let response : Bytes := [0x54, 0x4D, 0x53, 2, 0xFD, 2, 0, 3, 9, 3, 7]
    let result : SearchResult := .images [⟨none, none, some ((∅ : TagMap).insert 3 7), none⟩]
    decodeResponse response = .ok result ∧
      (encodeResponse result).length ≤ response.length ∧
      decodeResponse (encodeResponse result) = .ok result := by
  intro response result
  let fields : FieldSet := ⟨false, false, true, false⟩
  let form : RecordForm.Of fields := ⟨⟨none, none, some ⟨⟨.two, 2, by decide⟩,
    [⟨⟨.own, 3, by decide⟩, ⟨.own, 9, by decide⟩⟩, ⟨⟨.own, 3, by decide⟩, ⟨.own, 7, by decide⟩⟩],
    rfl⟩, none⟩, rfl⟩
  have hrecords : decodeRecords fields (response.drop headerLength) = .ok [form.1.record] :=
    (decodeRecords_eq_ok_iff (by decide)).2 ⟨[form], rfl, rfl⟩
  have hdecode : decodeResponse (Header.encode fields ++ response.drop headerLength)
      = .ok (.ofRecords fields [form.1.record]) :=
    decodeResponse_of_decodeRecords (by decide) hrecords
  have hresult : SearchResult.ofRecords fields [form.1.record] = result := by decide
  rw [hresult] at hdecode
  change decodeResponse response = .ok result at hdecode
  obtain ⟨hlength, result', hagain, -, hself, -⟩ := reencoding_stable hdecode
  rw [hself (by decide)] at hagain
  exact ⟨hdecode, hlength, hagain⟩

end Wire

end TagCatalog
