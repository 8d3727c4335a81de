import Mathlib.Tactic
import TagCatalog.Proofs.Table.RoundTrip
import TagCatalog.Proofs.Wire.Reencoding
import TagCatalog.Wire.Format

/-!
Both formats deliver the same records.

A flat response has a number of values for each key, and a table response has a key for each value.
So a key without values is in the one and not in the other, and all else is in both.

* `decode_flat_encode`, `decode_table_encode`: what each format delivers of records that have the
  same fields.
* `formats_agree_onFilledKeys`: the two compared; `formats_differ_onEmptyKey` has a record that they
  do not agree on.
-/

namespace TagCatalog.WireFormat

open Wire

variable {d : TagDictionary} {fields : FieldSet} {records : List ImageRecord}

/-- Records that have the same fields are delivered as they are by a flat response. -/
lemma decode_flat_encode (hfields : fields ≠ .none)
    (hsame : ∀ r ∈ records, FieldSet.ofRecord r = fields)
    (hshort : ∀ r ∈ records, (r.attributes.getD ∅).IsShort)
    (hsize : (encodeResponse (.images records)).length ≤ maxResponseSize) :
    ∃ r, decode .flat d (encodeResponse (.images records)) = .ok r ∧ r.toRecords = records := by
  have hread : decodeResponse (encodeResponse (.images records)) = _ :=
    decodeResponse_encodeResponse (fun r hr _ => hshort r hr) hsize
  refine ⟨_, hread, ?_⟩
  by_cases hne : records = []
  · subst hne
    rfl
  · have hdescribes : fields.Describes records := ⟨hsame, fun h => absurd h hfields⟩
    rw [SearchResult.delivered, FieldSet.covering_eq hne hsame, hdescribes.map_padded,
      hdescribes.toRecords_ofRecords]

/-- Records are delivered without the keys that have no values by a table response. -/
lemma decode_table_encode {document : Table.Document Unit}
    (hdocument : Table.Document.ofResult d (.images records) = .ok document)
    (hnames : ∀ r ∈ records, r.IsNamed d) (hshort : ∀ r ∈ records, (r.attributes.getD ∅).IsShort)
    (hsize : document.encode.length ≤ maxResponseSize) (hfits : document.cost.Fits) :
    decode .table d document.encode = .ok (.images (records.map ImageRecord.withoutEmptyKeys)) :=
  Table.decodeResponse_encode hdocument hnames hshort hsize hfits

/-- **Both formats deliver the same records, but for keys without values.** Records that have the
same fields, at least one, can be written in both formats if each tag has a name that leads back to
it and each user is a number of 32 bits. If no text is too long and both responses are within the
limits, both are read, and the table response delivers the records of the flat one without the
attribute keys that have no values. So they deliver the same if each key has a value. -/
theorem formats_agree_onFilledKeys (d : TagDictionary) {fields : FieldSet}
    (hfields : fields ≠ .none) {records : List ImageRecord}
    (hsame : ∀ r ∈ records, FieldSet.ofRecord r = fields)
    (hnames : ∀ r ∈ records, r.IsNamed d) (husers : ∀ r ∈ records, r.IsNarrow)
    (hshort : ∀ r ∈ records, (r.attributes.getD ∅).IsShort) :
    ∃ flat table document, encode .flat d (.images records) = .ok flat ∧
      encode .table d (.images records) = .ok table ∧
      Table.Document.ofResult d (.images records) = .ok document ∧
      (flat.length ≤ maxResponseSize → table.length ≤ maxResponseSize → document.cost.Fits →
        ∃ r s, decode .flat d flat = .ok r ∧ decode .table d table = .ok s ∧
          s.toRecords = r.toRecords.map ImageRecord.withoutEmptyKeys ∧
          ((∀ r ∈ records, (r.attributes.getD ∅).IsFilled) → s.toRecords = r.toRecords)) := by
  obtain ⟨document, hdocument⟩ :=
    Table.Document.exists_ofResult (r := .images records) hnames husers
  refine ⟨_, document.encode, document, rfl,
    Table.encodeResponse_eq_ok_iff.2 ⟨document, hdocument, rfl⟩, hdocument, ?_⟩
  intro hflat htable hfits
  obtain ⟨r, hr, hrecords⟩ := decode_flat_encode (d := d) hfields hsame hshort hflat
  refine ⟨r, _, hr, decode_table_encode hdocument hnames hshort htable hfits, ?_, ?_⟩
  · rw [hrecords]
    rfl
  · intro hfilled
    have hself : records.map ImageRecord.withoutEmptyKeys = records :=
      (List.map_congr_left fun r hr => ImageRecord.withoutEmptyKeys_eq_self (hfilled r hr)).trans
        (List.map_id' records)
    rw [hrecords]
    exact hself

/-- An image with a tag and an attribute is delivered the same in both formats. -/
theorem formats_agree_onFilledKeys_tagAndAttribute :
    let d : TagDictionary := .ofList [(5, "cat")]
    let record : ImageRecord :=
      ⟨none, none, some (.ofList [(5, 3)]), some (AttributeMap.add ∅ "color" "red" 4)⟩
    ∃ flat table r s, encode .flat d (.images [record]) = .ok flat ∧
      encode .table d (.images [record]) = .ok table ∧
      decode .flat d flat = .ok r ∧ decode .table d table = .ok s ∧ s.toRecords = r.toRecords := by
  intro d record
  have hfields : (⟨false, false, true, true⟩ : FieldSet) ≠ .none := by decide
  have hsame : ∀ r ∈ [record], FieldSet.ofRecord r = ⟨false, false, true, true⟩ := by
    decide +kernel
  obtain ⟨flat, table, document, hflat, htable, hdocument, hagree⟩ :=
    formats_agree_onFilledKeys d hfields hsame (by decide +kernel) (by decide +kernel)
      (by decide +kernel)
  let written : Table.Document Unit :=
    .images [⟨none, none, some [⟨(), "cat", 3⟩], some [⟨(), "color", "red", 4⟩]⟩]
  have hwritten : Table.Document.ofResult d (.images [record]) = .ok written := by decide +kernel
  obtain rfl : written = document := Except.ok.inj (hwritten.symm.trans hdocument)
  obtain rfl : written.encode = table := Except.ok.inj
    ((Table.encodeResponse_eq_ok_iff.2 ⟨written, hwritten, rfl⟩).symm.trans htable)
  obtain rfl : encodeResponse (.images [record]) = flat := Except.ok.inj hflat
  obtain ⟨r, s, hr, hs, -, hequal⟩ :=
    hagree (by decide +kernel) (by decide +kernel) (by decide +kernel)
  exact ⟨_, _, r, s, hflat, htable, hr, hs, hequal (by decide +kernel)⟩

/-- A key without values is delivered by the flat response of a record and not by its table
response, although nothing is too long and both are within the limits. -/
theorem formats_differ_onEmptyKey :
    let record : ImageRecord := ⟨none, none, none, some ((∅ : AttributeMap).insert "k" ∅)⟩
    FieldSet.ofRecord record ≠ .none ∧ record.IsNamed ∅ ∧ record.IsNarrow ∧
      (record.attributes.getD ∅).IsShort ∧
      ∃ flat table r s, encode .flat ∅ (.images [record]) = .ok flat ∧
        encode .table ∅ (.images [record]) = .ok table ∧
        decode .flat ∅ flat = .ok r ∧ decode .table ∅ table = .ok s ∧
        r.toRecords = [record] ∧ s.toRecords ≠ r.toRecords := by
  intro record
  let written : Table.Document Unit := .images [⟨none, none, none, some []⟩]
  have htable : encode .table ∅ (.images [record]) = .ok written.encode :=
    Table.encodeResponse_eq_ok_iff.2 ⟨written, by decide +kernel, rfl⟩
  exact ⟨by decide, by decide +kernel, by decide +kernel, by decide +kernel,
    encodeResponse (.images [record]), written.encode, .images [record],
    .images [⟨none, none, none, some ∅⟩], rfl, htable, by decide +kernel, by decide +kernel, rfl,
    by decide +kernel⟩

end TagCatalog.WireFormat
