import Mathlib.Tactic
import TagCatalog.Proofs.Table.Expense
import TagCatalog.Proofs.Table.Extension
import TagCatalog.Proofs.Table.Naming
import TagCatalog.Proofs.Table.Writing

/-!
Table responses are read back.

* `encodeResponse_eq_ok_iff`: a response is the encoding of the document that names the tags of its
  result.
* `response_encode`, `verify_encode_of_not_fits`: an encoded document passes the checks at its
  cost, or is refused for a limit.
* `table_roundTrip`: a result that is written is read back, but for the attribute keys that have no
  values.
-/

namespace TagCatalog.Table

open Wire

variable {d : TagDictionary} {r : SearchResult} {document : Document Unit}

/-- A response is the encoding of the document that names the tags of its result. -/
lemma encodeResponse_eq_ok_iff {b : Bytes} :
    encodeResponse d r = .ok b ↔ ∃ document, Document.ofResult d r = .ok document ∧
      document.encode = b := by
  rw [encodeResponse, bind_eq_ok_iff]
  exact exists_congr fun _ => and_congr_right fun _ => ⟨Except.ok.inj, congrArg Except.ok⟩

/-- An encoded document passes the checks at its cost, if the limits allow for it. -/
lemma response_encode (hsize : document.encode.length ≤ maxResponseSize)
    (hfits : document.cost.Fits) :
    Check.response document.encode.toArray ⟨0, 0⟩ = .ok ((), document.cost) := by
  have hspends := (Check.spends_response (documentAt_encode hsize)).passes 0
  rw [zero_add] at hspends
  exact hspends hfits

/-- An encoded document is refused for a limit, if the limits do not allow for its cost. -/
lemma verify_encode_of_not_fits (hsize : document.encode.length ≤ maxResponseSize)
    (hfits : ¬ document.cost.Fits) :
    ∃ f : Fault, f.hasPlace = false ∧
      verify document.encode.toArray = .error (Check.fault 0 f) := by
  have hspends := (Check.spends_response (documentAt_encode hsize)).refuses 0 Budget.fits_zero
  rw [zero_add] at hspends
  obtain ⟨f, hf, hcheck⟩ := hspends hfits
  exact ⟨f, hf, map_eq_error_iff.2 hcheck⟩

/-- A result is read back from the encoding of the document that names its tags, if the limits
allow for it. -/
lemma decodeResponse_encode (hdocument : Document.ofResult d r = .ok document)
    (hnames : ∀ record ∈ r.toRecords, record.IsNamed d)
    (hshort : ∀ record ∈ r.toRecords, (record.attributes.getD ∅).IsShort)
    (hsize : document.encode.length ≤ maxResponseSize) (hfits : document.cost.Fits) :
    decodeResponse d document.encode = .ok r.withoutEmptyKeys := by
  have hverify := verify_eq_ok_iff.2 ⟨_, response_encode hsize hfits⟩
  obtain ⟨a, ha, rfl⟩ := View.document_of_documentAt (documentAt_encode hsize)
  exact decodeResponse_eq_ok_iff.2
    ⟨hsize, hverify, a, ha, Document.toResult_of_ofResult hnames hshort hdocument⟩

/-- **What is written is read back.** Let a result be written, of which each tag has a name that
leads back to it and no text is too long, and let the response not be too long. The checks of the
response visit as many tables and refer to as many bytes as the cost of its document says. If the
limits allow for that, then the response is read back as the result, but for the attribute keys
that have no values; and if not, then it is refused for a limit. -/
theorem table_roundTrip (d : TagDictionary) (r : SearchResult) {b : Bytes}
    (h : encodeResponse d r = .ok b) (hnames : ∀ record ∈ r.toRecords, record.IsNamed d)
    (hshort : ∀ record ∈ r.toRecords, (record.attributes.getD ∅).IsShort)
    (hsize : b.length ≤ maxResponseSize) :
    ∃ document, Document.ofResult d r = .ok document ∧
      (document.cost.Fits →
        Check.response b.toArray ⟨0, 0⟩ = .ok ((), document.cost) ∧
        decodeResponse d b = .ok r.withoutEmptyKeys) ∧
      (¬ document.cost.Fits → ∃ f : Fault, f.hasPlace = false ∧
        decodeResponse d b = .error (Check.fault 0 f)) := by
  obtain ⟨document, hdocument, rfl⟩ := encodeResponse_eq_ok_iff.1 h
  refine ⟨document, hdocument, fun hfits => ⟨response_encode hsize hfits,
    decodeResponse_encode hdocument hnames hshort hsize hfits⟩, fun hfits => ?_⟩
  obtain ⟨f, hf, hverify⟩ := verify_encode_of_not_fits hsize hfits
  refine ⟨f, hf, ?_⟩
  rw [decodeResponse, checkSize, if_neg (Nat.not_lt.2 hsize)]
  simp only [hverify]
  rfl

/-- Of two images, one with id zero and empty maps and one with tags and with a key that has no
values, all is read back but this key. -/
theorem table_roundTrip_emptyMaps :
    let d : TagDictionary := .ofList [(5, "cat"), (9, "dog")]
    let tags : TagMap := .ofList [(9, 0), (5, 3)]
    let attributes : AttributeMap := AttributeMap.add ∅ "color" "red" 4
    let written : AttributeMap := attributes.insert "shape" ∅
    let r (attributes : AttributeMap) : SearchResult :=
      .images [⟨some 0, none, some ∅, some ∅⟩, ⟨none, none, some tags, some attributes⟩]
    ∃ b, encodeResponse d (r written) = .ok b ∧ b.length ≤ maxResponseSize ∧
      decodeResponse d b = .ok (r attributes) := by
  intro d tags attributes written r
  let document : Document Unit := .images [⟨some 0, none, some [], some []⟩,
    ⟨none, none, some [⟨(), "cat", 3⟩, ⟨(), "dog", 0⟩], some [⟨(), "color", "red", 4⟩]⟩]
  have hdocument : Document.ofResult d (r written) = .ok document := by decide +kernel
  have hencode : encodeResponse d (r written) = .ok document.encode :=
    encodeResponse_eq_ok_iff.2 ⟨document, hdocument, rfl⟩
  have hsize : document.encode.length ≤ maxResponseSize := by decide +kernel
  obtain ⟨document', hdocument', hread, -⟩ :=
    table_roundTrip d (r written) hencode (by decide +kernel) (by decide +kernel) hsize
  obtain rfl : document = document' := Except.ok.inj (hdocument.symm.trans hdocument')
  exact ⟨_, hencode, hsize, (hread (by decide +kernel)).2.trans (by decide +kernel)⟩

end TagCatalog.Table
