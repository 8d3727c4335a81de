import Mathlib.Tactic
import TagCatalog.Proofs.Wire.Closure
import TagCatalog.Proofs.Wire.Reencoding

/-!
Payloads one behind the other.

A count is refused when too few bytes are left for what it announces, so what stands
behind a record is looked at before the record has been read. It is only ever found
missing: a record that is read is read whatever follows it. And a reader knows the
place from which it started by its errors alone, so that the same bytes further on give
the same answers, and errors that are as much further on.

* `DecodeError.shift`, `Cursor.shift`: the same error, and the same bytes, further on.
* `Read.Shifts`: two readers of which the second does further on what the first does;
  `related_shifts` says so of every reader and itself.
* `RecordStream.collect_shift`: the same for a run over records, by induction on the
  bytes left; `RecordStream.collect_forms_append`: a run that has records in front of it,
  by induction on their forms.
* `decodeRecords_append`: the records of two payloads.
-/

namespace TagCatalog.Wire

/-! ### Further on -/

/-- The same error, found so many bytes further on; headers are found at no place. -/
def DecodeError.shift (k : Nat) : DecodeError → DecodeError
  | .header fault => .header fault
  | .truncated offset needed remaining => .truncated (offset + k) needed remaining
  | .malformed offset fault => .malformed (offset + k) fault

/-- No bytes further on the error is the same. -/
@[simp] lemma DecodeError.shift_zero (e : DecodeError) : e.shift 0 = e := by
  cases e <;> rfl

/-- The same bytes, so many bytes further on. -/
def Cursor.shift (k : Nat) (c : Cursor) : Cursor := ⟨c.rest, c.offset + k⟩

/-- Passing over bytes further on. -/
lemma Cursor.advance_shift (c : Cursor) (k n : Nat) :
    (c.shift k).advance n = (c.advance n).shift k := by
  rw [advance, shift, shift, advance, Nat.add_right_comm]

namespace Read

variable {α β : Type} {k : Nat}

/-- The second reader does further on what the first does. -/
def Shifts (k : Nat) (r r' : Read α) : Prop :=
  ∀ c, r' (c.shift k) = ((r c).1.mapError (·.shift k), (r c).2.shift k)

/-- Bytes are taken wherever they stand. -/
lemma shifts_take (n : Nat) : Shifts k (take n) (take n) := by
  intro c
  rw [take_apply, take_apply, Cursor.advance_shift]
  by_cases h : n ≤ c.rest.length
  · rw [if_pos h, if_pos (show n ≤ (c.shift k).rest.length from h)]
    rfl
  · rw [if_neg h, if_neg (show ¬ n ≤ (c.shift k).rest.length from h)]
    rfl

/-- A byte is read wherever it stands. -/
lemma shifts_byte : Shifts k byte byte := by
  rintro ⟨_ | ⟨b, rest⟩, offset⟩
  · rfl
  · rw [byte, byte, ← Cursor.advance_shift]
    rfl

/-- Bytes are missed for what begins so much further on. -/
lemma shifts_ensure (start needed : Nat) :
    Shifts k (ensure start needed) (ensure (start + k) needed) := by
  intro c
  by_cases h : hasAtLeast needed c.rest = true
  · rw [ensure, ensure, if_pos h, if_pos (show hasAtLeast needed (c.shift k).rest = true from h)]
    rfl
  · rw [ensure, ensure, if_neg h, if_neg (show ¬ hasAtLeast needed (c.shift k).rest = true from h)]
    rfl

/-- A hash is read wherever it stands. -/
lemma shifts_hash : Shifts k hash hash := by
  intro c
  by_cases h : 32 ≤ c.rest.length
  · rw [hash, hash, dif_pos h, dif_pos (show 32 ≤ (c.shift k).rest.length from h),
      Cursor.advance_shift]
    rfl
  · rw [hash, hash, dif_neg h, dif_neg (show ¬ 32 ≤ (c.shift k).rest.length from h)]
    rfl

/-- One reader after another: the second starts as much further on as the first. -/
lemma Shifts.bind {r r' : Read α} {f f' : α → Read β} (hr : Shifts k r r')
    (hf : ∀ a, Shifts k (f a) (f' a)) : Shifts k (r >>= f) (r' >>= f') := by
  intro c
  have hc := hr c
  rcases h : r c with ⟨e | a, c'⟩
  · rw [h] at hc
    rw [bind_of_error h, bind_of_error hc]
    rfl
  · rw [h] at hc
    rw [bind_of_ok h, bind_of_ok hc, hf a c']

/-- Every reader does so, for none knows its place but by what it says of it. -/
lemma related_shifts (k : Nat) :
    Related fun start start' r r' => start' = start + k → Shifts k r r' where
  pure _ _ _ := rfl
  failAt _ := by rintro rfl _; rfl
  take n _ := shifts_take n
  byte _ := shifts_byte
  ensure needed := by rintro rfl; exact shifts_ensure _ needed
  hash _ := shifts_hash
  bind hr hf hstart := (hr hstart).bind fun a => hf a hstart
  position_bind hf _ := fun c => hf c.offset (c.offset + k) rfl c

/-- A record is read wherever it stands. -/
lemma shifts_record (fields : FieldSet) : Shifts k (record fields) (record fields) :=
  @Related.record _ (related_shifts k) 0 (0 + k) fields rfl

end Read

/-! ### Runs over records -/

namespace RecordStream

variable {fields : FieldSet}

/-- A run further on finds the same records, and its error further on. -/
lemma collect_shift (hf : fields ≠ .none) (k : Nat) (done : List ImageRecord) (c : Cursor) :
    collect done ⟨fields, c.shift k, false⟩ =
      (collect done ⟨fields, c, false⟩).mapError (·.shift k) := by
  -- on the bytes left, which are as many further on
  induction hn : c.remaining using Nat.strong_induction_on generalizing c done with
  | _ n ih =>
    subst hn
    by_cases hc : c.rest = []
    · rw [collect_of_exhausted hc, collect_of_exhausted (show (c.shift k).rest = [] from hc)]
      rfl
    · have hc' : (c.shift k).rest ≠ [] := hc
      have hshift := Read.shifts_record (k := k) fields c
      rcases hr : Read.record fields c with ⟨e | record, c'⟩
      · rw [hr] at hshift
        rw [collect_of_error hf hc hr, collect_of_error hf hc' hshift]
        rfl
      · rw [hr] at hshift
        rw [collect_of_ok hf hc hr, collect_of_ok hf hc' hshift]
        exact ih _ (Read.consumes_record hf _ _ _ hr) _ _ rfl

/-- The records that a run has already stand in front of those that it finds. -/
lemma collect_eq_map (hf : fields ≠ .none) (done : List ImageRecord) (c : Cursor) :
    collect done ⟨fields, c, false⟩ =
      (collect [] ⟨fields, c, false⟩).map (done.reverse ++ ·) := by
  induction hn : c.remaining using Nat.strong_induction_on generalizing c done with
  | _ n ih =>
    subst hn
    by_cases hc : c.rest = []
    · rw [collect_of_exhausted hc, collect_of_exhausted hc]
      simp [Except.map]
    · rcases hr : Read.record fields c with ⟨e | record, c'⟩
      · rw [collect_of_error hf hc hr, collect_of_error hf hc hr]
        rfl
      · have hlt := Read.consumes_record hf _ _ _ hr
        rw [collect_of_ok hf hc hr, collect_of_ok hf hc hr, ih _ hlt _ _ rfl,
          ih _ hlt [record] _ rfl]
        cases collect [] ⟨fields, c', false⟩ <;> simp [Except.map]

/-- A run with forms in front of it has their records and goes on behind them. -/
lemma collect_forms_append (hf : fields ≠ .none) (forms : List (RecordForm.Of fields))
    (q : Bytes) (offset : Nat) (done : List ImageRecord) :
    collect done ⟨fields, ⟨forms.flatMap (·.1.bytes) ++ q, offset⟩, false⟩ =
      collect ((forms.map (·.1.record)).reverse ++ done)
        ⟨fields, ⟨q, offset + (forms.flatMap (·.1.bytes)).length⟩, false⟩ := by
  induction forms generalizing offset done with
  | nil => rfl
  | cons t forms ih =>
    have hread := (Read.reads_record fields).apply t (forms.flatMap (·.1.bytes) ++ q) offset
    rw [List.flatMap_cons, List.append_assoc,
      collect_of_ok hf (by simp [bytes_ne_nil hf t]) hread, ih, List.map_cons, List.reverse_cons,
      List.length_append, List.append_assoc, List.singleton_append, Nat.add_assoc]

end RecordStream

/-! ### Payloads -/

variable {fields : FieldSet} {p q : Bytes} {records : List ImageRecord}

/-- Behind a payload that is read, another is read as it is alone, but further on. -/
lemma decodeRecords_append_eq_map (h : decodeRecords fields p = .ok records) :
    decodeRecords fields (p ++ q) =
      ((decodeRecords fields q).mapError (·.shift p.length)).map (records ++ ·) := by
  obtain ⟨forms, rfl, rfl, hnone⟩ := exists_forms_of_decodeRecords h
  by_cases hf : fields = .none
  · obtain rfl := List.map_eq_nil_iff.1 (hnone hf)
    rcases h : decodeRecords fields q with e | records <;> simp [Except.map, Except.mapError, h]
  · rw [decodeRecords, RecordStream.ofPayload, RecordStream.collect_forms_append hf,
      RecordStream.collect_eq_map hf, decodeRecords, RecordStream.ofPayload,
      ← RecordStream.collect_shift hf, List.append_nil, List.reverse_reverse]
    rfl

/-- **Payloads compose.** Behind a payload that is read stands any other. If that is
read too, both are read together as the records of the one and then those of the other.
If it is refused, both together are refused for the same reason, with the same numbers of
bytes wanted and left, at a place that is further on by the length of the first. -/
theorem decodeRecords_append (h : decodeRecords fields p = .ok records) (q : Bytes) :
    (∀ records', decodeRecords fields q = .ok records' →
      decodeRecords fields (p ++ q) = .ok (records ++ records')) ∧
    ∀ e, decodeRecords fields q = .error e →
      decodeRecords fields (p ++ q) = .error (e.shift p.length) := by
  rw [decodeRecords_append_eq_map h]
  constructor
  · rintro records' hq
    rw [hq]
    rfl
  · rintro e hq
    rw [hq]
    rfl

/-- Behind a record with a letter of two bytes stands a record of which a key wants five
bytes where one is left. -/
theorem decodeRecords_append_cutKey :
    let fields : FieldSet := ⟨false, false, true, true⟩
    let p : Bytes := [1, 3, 9, 1, 1, 0x6B, 1, 2, 0xC3, 0xA9, 7]
    let q : Bytes := [0, 1, 5, 0x61]
    let record : ImageRecord := ⟨none, none, some ((∅ : TagMap).insert 3 9),
      some ((∅ : AttributeMap).add "k" "é" 7)⟩
    decodeRecords fields p = .ok [record] ∧ decodeRecords fields (p ++ p) = .ok [record, record] ∧
      decodeRecords fields q = .error (.truncated 7 5 1) ∧
      decodeRecords fields (p ++ q) = .error (.truncated 18 5 1) := by
  intro fields p q record
  let form : RecordForm.Of fields :=
    ⟨⟨none, none, some ⟨⟨.own, 1, by decide⟩, [⟨⟨.own, 3, by decide⟩, ⟨.own, 9, by decide⟩⟩], rfl⟩,
      some ⟨⟨.own, 1, by decide⟩, [⟨⟨⟨.own, 1, by decide⟩, "k", by decide, by decide⟩,
        ⟨⟨.own, 1, by decide⟩, [⟨⟨⟨.own, 2, by decide⟩, "é", by decide, by decide⟩,
          ⟨.own, 7, by decide⟩⟩], rfl⟩⟩], rfl⟩⟩, rfl⟩
  have hp : decodeRecords fields p = .ok [record] :=
    (decodeRecords_eq_ok_iff (by decide)).2 ⟨[form], by decide, by decide⟩
  have hread : Read.record fields ⟨q, headerLength⟩ =
      (.error (.truncated 7 5 1), ⟨[0x61], 7⟩) := rfl
  have hq : decodeRecords fields q = .error (.truncated 7 5 1) :=
    RecordStream.collect_of_error (by decide) (by decide) hread
  exact ⟨hp, (decodeRecords_append hp p).1 _ hp, hq, (decodeRecords_append hp q).2 _ hq⟩

end TagCatalog.Wire
