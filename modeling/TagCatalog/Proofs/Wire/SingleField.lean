import Mathlib.Tactic
import TagCatalog.Proofs.Wire.Acceptance
import TagCatalog.Wire.Response

/-!
Payloads of a single field, read as a bare list and read record by record.

The bare list looks at the length once and then cuts the bytes into pieces of one
width; the record reader finds out that the last piece is too short when it gets
there. Both answer the same, errors included.

* `IsStride`: a record is a piece of so many bytes; `collect_of_stride` is the run
  over such records, by induction on the bytes left: the pieces if their number is
  whole, and else the error at the last one.
* `record_onlyIds`, `record_onlyHashes`: the two single fields are such.
* `singleField_agrees`: agreement of the readers, of the writers, and of the reader
  of responses with the record reader behind the header.
-/

namespace TagCatalog.Wire

/-! ### Answers of single readers -/

namespace Read

/-- Bytes are taken if there are enough. -/
lemma take_apply (n : Nat) (c : Cursor) :
    take n c = if n ≤ c.rest.length then (.ok (c.rest.take n), c.advance n)
      else (.error (.truncated c.offset n c.remaining), c) := by
  rw [take]
  simp only [hasAtLeast_eq_true]

/-- What becomes of an answer changes neither errors nor the cursor. -/
lemma map_apply {α β : Type} (g : α → β) (r : Read α) (c : Cursor) :
    (g <$> r) c = match r c with
      | (.ok a, c') => (.ok (g a), c')
      | (.error e, c') => (.error e, c') := by
  rw [map_eq_pure_bind, bind_apply]
  rcases r c with ⟨e | a, c'⟩ <;> rfl

/-- A record of an id alone is an id. -/
lemma record_onlyIds :
    record .onlyIds = (fun n => ImageRecord.ofId (UInt32.ofNat n)) <$> uint FieldList.idWidth := by
  simp only [record, when, FieldSet.onlyIds, FieldSet.none, Bool.false_eq_true, if_true, if_false,
    pure_bind, map_eq_pure_bind, bind_assoc, ImageRecord.ofId, ImageRecord.blank]

/-- A record of a hash alone is a hash. -/
lemma record_onlyHashes : record .onlyHashes = ImageRecord.ofHash <$> hash := by
  simp only [record, when, FieldSet.onlyHashes, FieldSet.none, Bool.false_eq_true, if_true,
    if_false, pure_bind, map_eq_pure_bind, bind_assoc, ImageRecord.ofHash, ImageRecord.blank]

end Read

/-! ### Records of one width -/

/-- A record of these fields is a piece of so many bytes. -/
def IsStride (fields : FieldSet) (width : Nat) (one : Bytes → ImageRecord) : Prop :=
  ∀ c, Read.record fields c =
    if width ≤ c.rest.length then (.ok (one (c.rest.take width)), c.advance width)
    else (.error (.truncated c.offset width c.remaining), c)

/-- The error at the end of a payload that starts at `offset` and is no whole number
of pieces. -/
def raggedTail (offset width size : Nat) : DecodeError :=
  .truncated (offset + (size - size % width)) width (size % width)

/-- One piece less leaves the same error. -/
lemma raggedTail_sub {offset width size : Nat} (h : width ≤ size) :
    raggedTail (offset + width) width (size - width) = raggedTail offset width size := by
  have hmod : (size - width) % width = size % width := (Nat.mod_eq_sub_mod h).symm
  have hle : (size - width) % width ≤ size - width := Nat.mod_le _ _
  rw [raggedTail, raggedTail, hmod]
  rw [hmod] at hle
  congr 1
  omega

variable {fields : FieldSet} {width : Nat} {one : Bytes → ImageRecord}

/-- A run over records of one width answers the pieces, or the error at the last of
them. -/
lemma collect_of_stride (hstride : IsStride fields width one) (hf : fields ≠ .none)
    (hw : 0 < width) {pieces : Bytes → List ImageRecord}
    (hpieces : ∀ w, pieces w =
      if width ≤ w.length then one (w.take width) :: pieces (w.drop width) else [])
    (done : List ImageRecord) (c : Cursor) :
    RecordStream.collect done ⟨fields, c, false⟩ =
      if c.rest.length % width = 0 then .ok (done.reverse ++ pieces c.rest)
      else .error (raggedTail c.offset width c.rest.length) := by
  induction hn : c.rest.length using Nat.strong_induction_on generalizing c done with
  | _ n ih =>
    by_cases hc : c.rest = []
    · have hn0 : n = 0 := by rw [← hn, hc, List.length_nil]
      have hnil : pieces c.rest = [] := by
        rw [hpieces, hc, if_neg (by simpa using hw.ne')]
      rw [RecordStream.collect_of_exhausted hc, hnil, hn0, Nat.zero_mod, if_pos rfl,
        List.append_nil]
    · have hpos : 0 < n := by rw [← hn]; exact List.length_pos_of_ne_nil hc
      have hread := hstride c
      by_cases hle : width ≤ c.rest.length
      · rw [if_pos hle] at hread
        have hrest : (c.advance width).rest.length = n - width := by
          rw [Cursor.advance, List.length_drop, hn]
        have hmod : (n - width) % width = n % width := (Nat.mod_eq_sub_mod (hn ▸ hle)).symm
        rw [RecordStream.collect_of_ok hf hc hread, ih (n - width) (by omega) _ _ hrest, hmod,
          hpieces c.rest, if_pos hle]
        refine if_congr Iff.rfl ?_ ?_
        · simp [Cursor.advance]
        · rw [Cursor.advance, raggedTail_sub (hn ▸ hle)]
      · rw [if_neg hle] at hread
        have hmod : n % width = n := Nat.mod_eq_of_lt (by omega)
        rw [RecordStream.collect_of_error hf hc hread, raggedTail, hmod, if_neg (by omega),
          Nat.sub_self, Nat.add_zero, Cursor.remaining, hn]

/-- The same for a whole payload, as a change of what the bare list answers. -/
lemma decodeRecords_of_stride (hstride : IsStride fields width one) (hf : fields ≠ .none)
    (hw : 0 < width) {pieces : Bytes → List ImageRecord}
    (hpieces : ∀ w, pieces w =
      if width ≤ w.length then one (w.take width) :: pieces (w.drop width) else [])
    (payload : Bytes) :
    decodeRecords fields payload =
      (FieldList.checkWhole width payload).map fun _ => pieces payload := by
  rw [decodeRecords, RecordStream.ofPayload, collect_of_stride hstride hf hw hpieces,
    FieldList.checkWhole]
  by_cases h : payload.length % width = 0
  · simp [h, Except.map]
  · simp [h, Except.map, raggedTail]

/-! ### Ids and hashes -/

/-- Ids are in pieces of four bytes. -/
lemma isStride_onlyIds : IsStride .onlyIds FieldList.idWidth fun w =>
    ImageRecord.ofId (UInt32.ofNat (LittleEndian.decode w)) := by
  intro c
  rw [Read.record_onlyIds, Read.map_apply, Read.uint, Read.map_apply, Read.take_apply]
  by_cases h : FieldList.idWidth ≤ c.rest.length
  · rw [if_pos h, if_pos h]
  · rw [if_neg h, if_neg h]

/-- Hashes are in pieces of their size. -/
lemma isStride_onlyHashes : IsStride .onlyHashes ImageHash.size fun w =>
    ⟨none, ImageHash.ofBytes? w, none, none⟩ := by
  intro c
  rw [Read.record_onlyHashes, Read.map_apply, Read.hash, ImageHash.size]
  by_cases h : 32 ≤ c.rest.length
  · have hlen : (c.rest.take 32).length = 32 := List.length_take_of_le h
    simp only [dif_pos h, if_pos h, ImageHash.ofBytes?, dif_pos hlen]
    rfl
  · rw [dif_neg h, if_neg h]

namespace FieldList

/-- The ids read so far stand in front. -/
lemma idsFrom_eq_append : ∀ (done : List UInt32) (w : Bytes),
    idsFrom done w = done.reverse ++ idsFrom [] w
  | done, a :: b :: c :: d :: rest => by
    rw [idsFrom, idsFrom, idsFrom_eq_append, idsFrom_eq_append [_], List.reverse_cons,
      List.append_assoc, List.reverse_singleton]
  | _, [] | _, [_] | _, [_, _] | _, [_, _, _] => by simp [idsFrom]

/-- The ids are those of the pieces. -/
lemma idsFrom_nil_eq (w : Bytes) :
    idsFrom [] w = if idWidth ≤ w.length then
      UInt32.ofNat (LittleEndian.decode (w.take idWidth)) :: idsFrom [] (w.drop idWidth)
    else [] := by
  match w with
  | a :: b :: c :: d :: rest =>
    rw [idsFrom, idsFrom_eq_append, if_pos (by simp [idWidth])]
    rfl
  | [] | [_] | [_, _] | [_, _, _] => rfl

/-- The hashes read so far stand in front. -/
lemma hashesFrom_eq_append (done : List ImageHash) (w : Bytes) :
    hashesFrom done w = done.reverse ++ hashesFrom [] w := by
  induction hn : w.length using Nat.strong_induction_on generalizing done w with
  | _ n ih =>
    rw [hashesFrom, hashesFrom]
    by_cases h : (w.take 32).length = 32
    · have hlt : (w.drop 32).length < n := by
        rw [List.length_take] at h
        rw [List.length_drop]
        omega
      rw [dif_pos h, dif_pos h, ih _ hlt _ _ rfl, ih _ hlt [_] _ rfl, List.reverse_cons,
        List.append_assoc, List.reverse_singleton]
    · rw [dif_neg h, dif_neg h, List.reverse_nil, List.append_nil]

/-- The hashes are those of the pieces. -/
lemma hashesFrom_nil_eq (w : Bytes) :
    (hashesFrom [] w).map ImageRecord.ofHash = if ImageHash.size ≤ w.length then
      ⟨none, ImageHash.ofBytes? (w.take ImageHash.size), none, none⟩ ::
        (hashesFrom [] (w.drop ImageHash.size)).map ImageRecord.ofHash
    else [] := by
  rw [hashesFrom, ImageHash.size]
  by_cases h : 32 ≤ w.length
  · have hlen : (w.take 32).length = 32 := List.length_take_of_le h
    rw [dif_pos hlen, if_pos h, hashesFrom_eq_append, ImageHash.ofBytes?, dif_pos hlen]
    rfl
  · have hlen : ¬ (w.take 32).length = 32 := by
      rw [List.length_take]
      omega
    rw [dif_neg hlen, if_neg h]
    rfl

/-- The ids of a payload of the right length. -/
lemma decodeIds_eq_map (payload : Bytes) :
    decodeIds payload = (checkWhole idWidth payload).map fun _ => idsFrom [] payload := by
  rw [decodeIds]
  cases checkWhole idWidth payload <;> rfl

/-- The hashes of a payload of the right length. -/
lemma decodeHashes_eq_map (payload : Bytes) :
    decodeHashes payload =
      (checkWhole ImageHash.size payload).map fun _ => hashesFrom [] payload := by
  rw [decodeHashes]
  cases checkWhole ImageHash.size payload <;> rfl

/-- The only error of a look at the length is the piece that is too short. -/
lemma eq_raggedTail_of_checkWhole {α : Type} {width : Nat} {payload : Bytes} {f : Unit → α}
    {e : DecodeError} (h : (checkWhole width payload).map f = .error e) :
    e = raggedTail headerLength width payload.length := by
  rw [checkWhole] at h
  split_ifs at h
  · exact (Except.error.inj h).symm
  · cases h

/-- Ids are written as records of ids alone. -/
lemma encodeIds_eq (ids : List UInt32) :
    encodeIds ids = encodeRecords .onlyIds (ids.map ImageRecord.ofId) := by
  rw [encodeIds, encodeRecords, List.flatMap_map]
  refine congrArg ids.flatMap (funext fun id => ?_)
  simp [encodeRecord, FieldSet.onlyIds, FieldSet.none, ImageRecord.ofId]

/-- Hashes are written as records of hashes alone. -/
lemma encodeHashes_eq (hashes : List ImageHash) :
    encodeHashes hashes = encodeRecords .onlyHashes (hashes.map ImageRecord.ofHash) := by
  rw [encodeHashes, encodeRecords, List.flatMap_map]
  refine congrArg hashes.flatMap (funext fun hash => ?_)
  simp [encodeRecord, FieldSet.onlyHashes, FieldSet.none, ImageRecord.ofHash]

end FieldList

/-- Ids alone are read alike in both ways. -/
lemma decodeRecords_onlyIds (payload : Bytes) :
    decodeRecords .onlyIds payload =
      (FieldList.decodeIds payload).map (List.map ImageRecord.ofId) := by
  have hpieces (w : Bytes) : (FieldList.idsFrom [] w).map ImageRecord.ofId =
      if FieldList.idWidth ≤ w.length then
        ImageRecord.ofId (UInt32.ofNat (LittleEndian.decode (w.take FieldList.idWidth))) ::
          (FieldList.idsFrom [] (w.drop FieldList.idWidth)).map ImageRecord.ofId
      else [] := by
    rw [FieldList.idsFrom_nil_eq]
    split_ifs <;> rfl
  rw [decodeRecords_of_stride isStride_onlyIds (by decide) (by decide) hpieces,
    FieldList.decodeIds_eq_map]
  cases FieldList.checkWhole FieldList.idWidth payload <;> rfl

/-- Hashes alone are read alike in both ways. -/
lemma decodeRecords_onlyHashes (payload : Bytes) :
    decodeRecords .onlyHashes payload =
      (FieldList.decodeHashes payload).map (List.map ImageRecord.ofHash) := by
  rw [decodeRecords_of_stride isStride_onlyHashes (by decide) (by decide)
    FieldList.hashesFrom_nil_eq, FieldList.decodeHashes_eq_map]
  cases FieldList.checkWhole ImageHash.size payload <;> rfl

/-! ### Responses -/

/-- Without fields and without bytes there are no records. -/
lemma decodeRecords_nil (fields : FieldSet) : decodeRecords fields [] = .ok [] :=
  RecordStream.collect_of_exhausted rfl

/-- The reader of responses answers what the record reader does behind the header,
in a shape that depends on the fields. -/
lemma decodeResponse_map_toRecords (response : Bytes) :
    (decodeResponse response).map SearchResult.toRecords =
      (Header.decode response).bind fun fields =>
        decodeRecords fields (response.drop headerLength) := by
  rw [decodeResponse]
  cases Header.decode response with
  | error e => rfl
  | ok fields =>
    simp only [bind, Except.bind, pure, Except.pure]
    by_cases hids : fields = .onlyIds
    · subst hids
      rw [if_pos rfl, decodeRecords_onlyIds]
      cases FieldList.decodeIds (response.drop headerLength) <;> rfl
    · by_cases hhashes : fields = .onlyHashes
      · subst hhashes
        rw [if_neg hids, if_pos rfl, decodeRecords_onlyHashes]
        cases FieldList.decodeHashes (response.drop headerLength) <;> rfl
      · rw [if_neg hids, if_neg hhashes]
        by_cases hnone : fields = .none ∧ response.drop headerLength = []
        · rw [if_pos hnone, hnone.2, decodeRecords_nil]
          rfl
        · rw [if_neg hnone]
          cases decodeRecords fields (response.drop headerLength) <;> rfl

/-- **One field is read and written alike in both ways.** On every payload the record
reader answers the records of just the ids, or of just the hashes, that the bare
list answers, in their order, and else the same error, which tells where the last
piece starts, how many bytes it wants and how many are left. Both writers write the
same bytes. So the reader of responses differs from the record reader behind the
header only in the shape of its answers. -/
theorem singleField_agrees :
    (∀ payload, decodeRecords .onlyIds payload =
      (FieldList.decodeIds payload).map (List.map ImageRecord.ofId)) ∧
    (∀ payload, decodeRecords .onlyHashes payload =
      (FieldList.decodeHashes payload).map (List.map ImageRecord.ofHash)) ∧
    (∀ payload e, FieldList.decodeIds payload = .error e →
      e = raggedTail headerLength FieldList.idWidth payload.length) ∧
    (∀ payload e, FieldList.decodeHashes payload = .error e →
      e = raggedTail headerLength ImageHash.size payload.length) ∧
    (∀ ids, FieldList.encodeIds ids = encodeRecords .onlyIds (ids.map ImageRecord.ofId)) ∧
    (∀ hashes, FieldList.encodeHashes hashes =
      encodeRecords .onlyHashes (hashes.map ImageRecord.ofHash)) ∧
    ∀ response, (decodeResponse response).map SearchResult.toRecords =
      (Header.decode response).bind fun fields =>
        decodeRecords fields (response.drop headerLength) := by
  refine ⟨decodeRecords_onlyIds, decodeRecords_onlyHashes, fun payload e h => ?_,
    fun payload e h => ?_, FieldList.encodeIds_eq, FieldList.encodeHashes_eq,
    decodeResponse_map_toRecords⟩
  · rw [FieldList.decodeIds_eq_map] at h
    exact FieldList.eq_raggedTail_of_checkWhole h
  · rw [FieldList.decodeHashes_eq_map] at h
    exact FieldList.eq_raggedTail_of_checkWhole h

end TagCatalog.Wire
