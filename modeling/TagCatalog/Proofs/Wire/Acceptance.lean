import Mathlib.Tactic
import TagCatalog.Proofs.Wire.Meaning
import TagCatalog.Proofs.Wire.Readers

/-!
What a payload of records must be to be accepted, and what is read from it.

* `RecordStream.collect_of_next_ok`, `collect_of_next_error`, `collect_of_next_none`:
  one step of a run; `collect_of_ok`, `collect_of_error`, `collect_of_exhausted` say
  the same by the bytes that are left.
* `RecordStream.collect_eq_ok_iff`: what the whole run answers, by induction on the
  bytes left; `decodeRecords_eq_ok_iff` is the same from the start.
* `decodeRecords_accepts_exactly`: a payload is accepted if and only if it is a
  list of record forms of the selected fields; the list is unique, the records are
  the folds of the forms, and a fold keeps the last user for each tag and for each
  value of a key; no look at a count stands in the way.
-/

namespace TagCatalog.Wire

namespace RecordStream

variable {fields : FieldSet} {c c' : Cursor} {done : List ImageRecord}

/-! ### One step of a run -/

/-- When nothing comes next, the run has ended. -/
lemma collect_of_next_none {s t : RecordStream} (h : s.next = (none, t)) :
    collect done s = .ok done.reverse := by
  rw [collect]
  split
  next => rfl
  next h' => rw [h] at h'; cases h'
  next h' => rw [h] at h'; cases h'

/-- When a record comes next, the run goes on behind it. -/
lemma collect_of_next_ok {s t : RecordStream} {r : ImageRecord}
    (h : s.next = (some (.ok r), t)) : collect done s = collect (r :: done) t := by
  rw [collect]
  split
  next h' => rw [h] at h'; cases h'
  next h' => rw [h] at h'; cases h'
  next h' => rw [h] at h'; cases h'; rfl

/-- When an error comes next, the run ends with it. -/
lemma collect_of_next_error {s t : RecordStream} {e : DecodeError}
    (h : s.next = (some (.error e), t)) : collect done s = .error e := by
  rw [collect]
  split
  next h' => rw [h] at h'; cases h'
  next h' => rw [h] at h'; cases h'; rfl
  next h' => rw [h] at h'; cases h'

/-- As long as there are bytes and fields are selected, a record is read. -/
lemma next_eq (hf : fields ≠ .none) (hc : c.rest ≠ []) :
    next ⟨fields, c, false⟩ = match Read.record fields c with
      | (.ok r, c') => (some (.ok r), ⟨fields, c', false⟩)
      | (.error e, c') => (some (.error e), ⟨fields, c', true⟩) := by
  rcases hr : Read.record fields c with ⟨e | r, c'⟩
  · rw [next, if_neg (by simp [hc]), if_neg hf]
    simp only [hr]
  · rw [next, if_neg (by simp [hc]), if_neg hf]
    simp only [hr]

/-- When the bytes have ended, so have the records. -/
lemma collect_of_exhausted (hc : c.rest = []) :
    collect done ⟨fields, c, false⟩ = .ok done.reverse := by
  refine collect_of_next_none (t := ⟨fields, c, false⟩) ?_
  rw [next, if_pos (by simp [hc])]

/-- After a record the run goes on behind it. -/
lemma collect_of_ok {r : ImageRecord} (hf : fields ≠ .none) (hc : c.rest ≠ [])
    (h : Read.record fields c = (.ok r, c')) :
    collect done ⟨fields, c, false⟩ = collect (r :: done) ⟨fields, c', false⟩ := by
  have hnext := next_eq hf hc
  rw [h] at hnext
  exact collect_of_next_ok hnext

/-- An error ends the run. -/
lemma collect_of_error {e : DecodeError} (hf : fields ≠ .none) (hc : c.rest ≠ [])
    (h : Read.record fields c = (.error e, c')) :
    collect done ⟨fields, c, false⟩ = .error e := by
  have hnext := next_eq hf hc
  rw [h] at hnext
  exact collect_of_next_error hnext

/-! ### A whole run -/

/-- A record of selected fields has bytes. -/
lemma bytes_ne_nil (hf : fields ≠ .none) (t : RecordForm.Of fields) : t.1.bytes ≠ [] := by
  intro h
  have hread := (Read.reads_record fields).apply t [] 0
  have hlt := Read.consumes_record hf _ _ _ hread
  simp [h, Cursor.remaining] at hlt

/-- A run answers the records of the forms into which the bytes can be cut, behind
those that it has. -/
lemma collect_eq_ok_iff (hf : fields ≠ .none) {records : List ImageRecord} :
    collect done ⟨fields, c, false⟩ = .ok records ↔
      ∃ forms : List (RecordForm.Of fields), forms.flatMap (·.1.bytes) = c.rest ∧
        records = done.reverse ++ forms.map (·.1.record) := by
  -- on the bytes left, which each record makes fewer
  induction hn : c.remaining using Nat.strong_induction_on generalizing c done with
  | _ n ih =>
    by_cases hc : c.rest = []
    · rw [collect_of_exhausted hc, hc, Except.ok.injEq]
      constructor
      · rintro rfl
        exact ⟨[], rfl, by simp⟩
      · rintro ⟨forms, hbytes, rfl⟩
        cases forms with
        | nil => simp
        | cons t forms =>
          exact absurd (List.append_eq_nil_iff.1 hbytes).1 (bytes_ne_nil hf t)
    · have hstep := Read.reads_record fields c
      rcases hr : Read.record fields c with ⟨e | r, c'⟩
      · -- no form stands at the front, for it would be read
        rw [collect_of_error hf hc hr]
        constructor
        · rintro ⟨⟩
        · rintro ⟨forms, hbytes, -⟩
          cases forms with
          | nil => exact absurd hbytes.symm hc
          | cons t forms =>
            have hok := (hstep _ ⟨forms.flatMap (·.1.bytes), c.offset + t.1.bytes.length⟩).2
              ⟨t, rfl, hbytes.symm, rfl⟩
            rw [hr] at hok
            cases hok
      · obtain ⟨t, rfl, hp⟩ := (hstep r c').1 hr
        have hlt := Read.consumes_record hf _ _ _ hr
        rw [collect_of_ok hf hc hr, ih _ (hn ▸ hlt) rfl]
        constructor
        · rintro ⟨forms, hbytes, rfl⟩
          refine ⟨t :: forms, ?_, by simp⟩
          rw [List.flatMap_cons, hbytes, hp.1]
        · rintro ⟨forms, hbytes, rfl⟩
          cases forms with
          | nil => exact absurd hbytes.symm hc
          | cons t' forms =>
            rw [List.flatMap_cons, hp.1] at hbytes
            obtain ⟨rfl, hrest⟩ := RecordForm.selfDelimiting fields _ _ _ _ hbytes
            exact ⟨forms, hrest, by simp⟩

end RecordStream

/-- A payload is accepted if it can be cut into record forms of the selected
fields, and the records are the folds of these. -/
lemma decodeRecords_eq_ok_iff {fields : FieldSet} (hf : fields ≠ .none) {payload : Bytes}
    {records : List ImageRecord} :
    decodeRecords fields payload = .ok records ↔
      ∃ forms : List (RecordForm.Of fields), forms.flatMap (·.1.bytes) = payload ∧
        records = forms.map (·.1.record) := by
  rw [decodeRecords, RecordStream.ofPayload, RecordStream.collect_eq_ok_iff hf]
  rfl

/-! ### The grammar -/

/-- The look at the bytes left, made before any entry is read, lets pass each
number with its entries behind it, whatever follows. -/
def CountsPass {τ : Type} (bytes : τ → Bytes) : Prop :=
  ∀ (t : Counted τ) (rest : Bytes) (offset : Nat),
    Read.count leastEntry ⟨t.bytes bytes ++ rest, offset⟩
      = (.ok t.items.length,
          ⟨t.items.flatMap bytes ++ rest, offset + t.count.bytes.length⟩)

/-- **The decoder accepts exactly the grammar.** With a field selected, a payload is
answered by records if and only if it is cut into record forms of these fields, of
which each number has any of its forms, each count tells its entries, and each text
is short; the records are the folds of the forms. The payload is cut in one way at
most. A fold is the one record whose look-ups answer the last user for a tag and
for a value under a key, and which has a key wherever one is written. No count of
entries that are there is refused. -/
theorem decodeRecords_accepts_exactly {fields : FieldSet} (hf : fields ≠ .none)
    (payload : Bytes) :
    (∀ records, decodeRecords fields payload = .ok records ↔
      ∃ forms : List (RecordForm.Of fields), forms.flatMap (·.1.bytes) = payload ∧
        records = forms.map (·.1.record)) ∧
    (∀ forms forms' : List (RecordForm.Of fields), forms.flatMap (·.1.bytes) = payload →
      forms'.flatMap (·.1.bytes) = payload → forms = forms') ∧
    (∀ (form : RecordForm.Of fields) (record : ImageRecord),
      form.1.Tells record ↔ record = form.1.record) ∧
    CountsPass TagForm.bytes ∧ CountsPass KeyForm.bytes ∧ CountsPass ValueForm.bytes := by
  refine ⟨fun records => decodeRecords_eq_ok_iff hf, fun forms forms' h h' => ?_,
    fun form record => tells_iff_eq_record, Read.count_counted TagForm.leastEntry_le,
    Read.count_counted KeyForm.leastEntry_le, Read.count_counted ValueForm.leastEntry_le⟩
  exact (RecordForm.selfDelimiting fields).eq_of_flatMap_eq (RecordStream.bytes_ne_nil hf)
    (h.trans h'.symm)

/-- Two users for one tag, the count of the two in three bytes: the later user is
read. -/
theorem decodeRecords_repeated_tag :
    (⟨false, false, true, false⟩ : FieldSet) ≠ .none ∧
      decodeRecords ⟨false, false, true, false⟩ [0xFD, 2, 0, 3, 9, 3, 7]
        = .ok [⟨none, none, some ((∅ : TagMap).insert 3 7), none⟩] := by
  have hf : (⟨false, false, true, false⟩ : FieldSet) ≠ .none := by decide
  refine ⟨hf, ((decodeRecords_accepts_exactly hf _).1 _).2 ⟨[⟨⟨none, none, some
    ⟨⟨.two, 2, by decide⟩, [⟨⟨.own, 3, by decide⟩, ⟨.own, 9, by decide⟩⟩,
      ⟨⟨.own, 3, by decide⟩, ⟨.own, 7, by decide⟩⟩], rfl⟩, none⟩, rfl⟩], ?_, ?_⟩⟩
  · rfl
  · decide

end TagCatalog.Wire
