import Mathlib.Tactic
import TagCatalog.Proofs.Wire.Closure
import TagCatalog.Proofs.Wire.Headers
import TagCatalog.Proofs.Wire.Reencoding

/-!
Responses that are cut short.

A reader that looks at the front part of some bytes either finds that they end too
early or does what it does in front of all of them: no look at contents comes before
the look at their length. So a response that is read and is then cut is read up to
the cut, or is refused as cut.

* `Read.WithstandsCut`: such a reader; `closed_withstandsCut` says so of all readers
  from the smallest ones on.
* `RecordForm.ends`: where the records of a payload end;
  `RecordStream.collect_of_cut`: a run over a payload that is cut, by induction on
  the forms of the payload.
* `decodeResponse_of_cut`: what is read of a response that is cut.
-/

namespace TagCatalog

namespace SearchResult

/-- The first items of a result. -/
def take (n : Nat) : SearchResult → SearchResult
  | ids l => ids (l.take n)
  | hashes l => hashes (l.take n)
  | images l => images (l.take n)

/-- The first items of a result have its shape. -/
lemma kind_take (n : Nat) (result : SearchResult) : (result.take n).kind = result.kind := by
  cases result <;> rfl

/-- The first records take the same shape as all of them. -/
lemma take_ofRecords (fields : Wire.FieldSet) (n : Nat) (records : List ImageRecord) :
    (ofRecords fields records).take n = ofRecords fields (records.take n) := by
  rw [ofRecords, ofRecords]
  split_ifs
  · rw [take, List.map_take]
  · rw [take, List.map_take]
  · rw [take, List.take_nil]
  · rfl

end SearchResult

namespace Wire

/-- A structure ends too early. -/
def DecodeError.IsTruncated (e : DecodeError) : Prop :=
  ∃ offset needed remaining, e = .truncated offset needed remaining

/-- The cursor in front of the same bytes and some more. -/
def Cursor.extend (c : Cursor) (w : Bytes) : Cursor := ⟨c.rest ++ w, c.offset⟩

namespace Cursor

variable {c : Cursor} {n : Nat}

/-- Bytes that are there are still there when they go on. -/
lemma le_length_rest_extend (h : n ≤ c.rest.length) (w : Bytes) :
    n ≤ (c.extend w).rest.length := by
  rw [extend, List.length_append]
  exact Nat.le_add_right_of_le h

/-- Bytes that are there are the same when they go on. -/
lemma take_rest_extend (h : n ≤ c.rest.length) (w : Bytes) :
    (c.extend w).rest.take n = c.rest.take n :=
  List.take_append_of_le_length h

/-- Passing over bytes that are there leaves what goes on behind them. -/
lemma advance_extend (h : n ≤ c.rest.length) (w : Bytes) :
    (c.extend w).advance n = (c.advance n).extend w := by
  rw [advance, extend, List.drop_append_of_le_length h]
  rfl

end Cursor

namespace Read

variable {α β : Type}

/-! ### Readers in front of a cut -/

/-- In front of bytes that are cut, a reader finds that they end too early, or does
what it does when they go on. -/
def WithstandsCut (r : Read α) : Prop :=
  ∀ c w, (∃ e c', r c = (.error e, c') ∧ e.IsTruncated) ∨
    ∃ x c', r c = (x, c') ∧ r (c.extend w) = (x, c'.extend w)

/-- A reader that looks at no bytes withstands cuts. -/
lemma withstandsCut_pure (a : α) : WithstandsCut (pure a : Read α) :=
  fun c _ => .inr ⟨.ok a, c, rfl, rfl⟩

/-- Asking for the position looks at no bytes. -/
lemma withstandsCut_position : WithstandsCut position :=
  fun c _ => .inr ⟨.ok c.offset, c, rfl, rfl⟩

/-- A failure that does not depend on the cursor looks at no bytes. -/
lemma withstandsCut_failAt (e : DecodeError) : WithstandsCut (failAt fun _ => e : Read α) :=
  fun c _ => .inr ⟨.error e, c, rfl, rfl⟩

/-- Bytes are taken if all of them are there. -/
lemma withstandsCut_take (n : Nat) : WithstandsCut (take n) := by
  intro c w
  by_cases h : n ≤ c.rest.length
  · refine .inr ⟨.ok (c.rest.take n), c.advance n, by rw [take_apply, if_pos h], ?_⟩
    rw [take_apply, if_pos (Cursor.le_length_rest_extend h w), Cursor.take_rest_extend h,
      Cursor.advance_extend h]
  · exact .inl ⟨_, c, by rw [take_apply, if_neg h], _, _, _, rfl⟩

/-- A byte is read if it is there. -/
lemma withstandsCut_byte : WithstandsCut byte := by
  rintro ⟨rest, offset⟩ w
  cases rest with
  | nil => exact .inl ⟨_, _, rfl, _, _, _, rfl⟩
  | cons b rest => exact .inr ⟨.ok b, ⟨rest, offset + 1⟩, rfl, rfl⟩

/-- Too few bytes are found missing when more are cut off. -/
lemma withstandsCut_ensure (start needed : Nat) : WithstandsCut (ensure start needed) := by
  intro c w
  by_cases h : hasAtLeast needed c.rest = true
  · have hlong : hasAtLeast needed (c.extend w).rest = true :=
      hasAtLeast_eq_true.2 (Cursor.le_length_rest_extend (hasAtLeast_eq_true.1 h) w)
    exact .inr ⟨.ok (), c, by rw [ensure, if_pos h], by rw [ensure, if_pos hlong]⟩
  · exact .inl ⟨_, c, by rw [ensure, if_neg h], _, _, _, rfl⟩

/-- A hash is read if all its bytes are there. -/
lemma withstandsCut_hash : WithstandsCut hash := by
  intro c w
  by_cases h : 32 ≤ c.rest.length
  · refine .inr ⟨_, _, by rw [hash, dif_pos h], ?_⟩
    rw [hash, dif_pos (Cursor.le_length_rest_extend h w)]
    simp only [Cursor.take_rest_extend h, Cursor.advance_extend h]
  · exact .inl ⟨_, c, by rw [hash, dif_neg h], _, _, _, rfl⟩

/-- One reader after another: the cut is found by the first or by the second. -/
lemma WithstandsCut.bind {r : Read α} {f : α → Read β} (hr : WithstandsCut r)
    (hf : ∀ a, WithstandsCut (f a)) : WithstandsCut (r >>= f) := by
  intro c w
  rcases hr c w with ⟨e, c', he, hcut⟩ | ⟨e | a, c', hshort, hlong⟩
  · exact .inl ⟨e, c', bind_of_error he, hcut⟩
  · exact .inr ⟨.error e, c', bind_of_error hshort, bind_of_error hlong⟩
  · rw [bind_of_ok hshort, bind_of_ok hlong]
    exact hf a c' w

/-- All readers withstand cuts, for none looks at contents before it has looked at
their length. -/
lemma closed_withstandsCut : Closed fun _ => WithstandsCut where
  pure := withstandsCut_pure
  failAt _ := withstandsCut_failAt _
  take := withstandsCut_take
  byte := withstandsCut_byte
  ensure := withstandsCut_ensure _
  hash := withstandsCut_hash
  bind := WithstandsCut.bind
  position_bind h := withstandsCut_position.bind h

/-- A record withstands cuts, wherever it begins. -/
lemma withstandsCut_record (fields : FieldSet) : WithstandsCut (record fields) :=
  @Closed.record _ closed_withstandsCut 0 fields

end Read

/-! ### Payloads in front of a cut -/

section

variable {fields : FieldSet}

/-- Where each of the records ends, the first of which begins at `start`. -/
def RecordForm.ends (start : Nat) : List (RecordForm.Of fields) → List Nat
  | [] => []
  | t :: l => (start + t.1.bytes.length) :: ends (start + t.1.bytes.length) l

/-- Records do not end before they begin. -/
lemma RecordForm.start_lt_of_mem_ends (hf : fields ≠ .none) {l : List (RecordForm.Of fields)}
    {start stop : Nat} (h : stop ∈ ends start l) : start < stop := by
  induction l generalizing start with
  | nil => cases h
  | cons t l ih =>
    have ht : 0 < t.1.bytes.length := List.length_pos_of_ne_nil (RecordStream.bytes_ne_nil hf t)
    rcases List.mem_cons.1 h with rfl | h
    · omega
    · have := ih h
      omega

/-- Before the first record ends, none does. -/
lemma RecordForm.countP_ends_eq_zero (hf : fields ≠ .none) {l : List (RecordForm.Of fields)}
    {start stop : Nat} (h : stop ≤ start) : (ends start l).countP (· ≤ stop) = 0 := by
  rw [List.countP_eq_zero]
  intro n hn
  have hlt := start_lt_of_mem_ends hf hn
  simpa using h.trans_lt hlt

/-- A record of which a part is there, and not all, ends too early. -/
lemma Read.record_of_cut (t : RecordForm.Of fields) {v w rest : Bytes}
    (h : t.1.bytes ++ rest = v ++ w) (hlt : v.length < t.1.bytes.length) (offset : Nat) :
    ∃ e c, record fields ⟨v, offset⟩ = (.error e, c) ∧ e.IsTruncated := by
  rcases withstandsCut_record fields ⟨v, offset⟩ w with hcut | ⟨x, c, -, hlong⟩
  · exact hcut
  · -- else it would be read from bytes that are not there
    have hread := (reads_record fields).apply t rest offset
    rw [h] at hread
    have hrest : c.rest ++ w = rest :=
      congrArg Cursor.rest (congrArg Prod.snd (hlong.symm.trans hread))
    have hlength := congrArg List.length h
    rw [← hrest] at hlength
    simp only [List.length_append] at hlength
    omega

namespace RecordStream

/-- A run over a payload that is cut answers the records that end before the cut, if
the last of them ends there, and is refused as cut if not. -/
lemma collect_of_cut (hf : fields ≠ .none) {forms : List (RecordForm.Of fields)} {v w : Bytes}
    (h : forms.flatMap (·.1.bytes) = v ++ w) (start offset : Nat) (done : List ImageRecord) :
    (start + v.length ∈ start :: RecordForm.ends start forms →
      collect done ⟨fields, ⟨v, offset⟩, false⟩ = .ok (done.reverse ++
        (forms.take ((RecordForm.ends start forms).countP (· ≤ start + v.length))).map
          (·.1.record))) ∧
    (start + v.length ∉ start :: RecordForm.ends start forms →
      ∃ e, collect done ⟨fields, ⟨v, offset⟩, false⟩ = .error e ∧ e.IsTruncated) := by
  -- on the forms; the cut falls before, inside or behind the first of them
  induction forms generalizing v start offset done with
  | nil =>
    obtain ⟨rfl, -⟩ := List.append_eq_nil_iff.1 h.symm
    rw [collect_of_exhausted rfl]
    simp
  | cons t forms ih =>
    rw [List.flatMap_cons] at h
    by_cases hv : v = []
    · subst hv
      rw [collect_of_exhausted rfl, List.length_nil, Nat.add_zero,
        RecordForm.countP_ends_eq_zero hf le_rfl]
      simp
    have hpos := List.length_pos_of_ne_nil hv
    rw [RecordForm.ends]
    by_cases hlt : v.length < t.1.bytes.length
    · obtain ⟨e, c, he, hcut⟩ := Read.record_of_cut t h hlt offset
      refine ⟨fun hmem => ?_, fun _ => ⟨e, collect_of_error hf hv he, hcut⟩⟩
      simp only [List.mem_cons] at hmem
      rcases hmem with hmem | hmem | hmem
      · omega
      · omega
      · have := RecordForm.start_lt_of_mem_ends hf hmem
        omega
    · obtain ⟨v', rfl⟩ : t.1.bytes <+: v := by
        have hfront : t.1.bytes <+: v ++ w := h ▸ List.prefix_append _ _
        exact List.prefix_of_prefix_length_le hfront (List.prefix_append v w)
          (Nat.le_of_not_lt hlt)
      rw [List.append_assoc] at h
      have hread := (Read.reads_record fields).apply t v' offset
      rw [collect_of_ok hf hv hread]
      obtain ⟨ihok, ihcut⟩ := ih (List.append_cancel_left h) (start + t.1.bytes.length)
        (offset + t.1.bytes.length) (t.1.record :: done)
      rw [List.length_append, ← Nat.add_assoc]
      have ht := List.length_pos_of_ne_nil (bytes_ne_nil hf t)
      have hstart : start + t.1.bytes.length + v'.length ≠ start := by omega
      rw [List.mem_cons, or_iff_right hstart, List.countP_cons_of_pos (by simp),
        List.take_succ_cons, List.map_cons]
      constructor
      · intro hmem
        rw [ihok hmem, List.reverse_cons, List.append_assoc, List.singleton_append]
      · exact ihcut

end RecordStream

/-! ### Responses in front of a cut -/

/-- A response that ends inside its header has none. -/
lemma Header.decode_of_short {response : Bytes} (h : response.length < headerLength) :
    ∃ fault, decode response = .error (.header fault) := by
  refine decode_of_forall_ne fun fields payload heq => ?_
  rw [heq, List.length_append, length_encode] at h
  omega

/-- A payload that is read is cut into its records. -/
lemma exists_forms_of_decodeResponse {response : Bytes} {result : SearchResult}
    (h : decodeResponse response = .ok result) :
    ∃ (fields : FieldSet) (forms : List (RecordForm.Of fields)),
      response = Header.encode fields ++ forms.flatMap (·.1.bytes) ∧
      result = .ofRecords fields (forms.map (·.1.record)) ∧ (fields = .none → forms = []) := by
  obtain ⟨fields, records, hheader, hrecords, rfl⟩ := decodeResponse_eq_ok_iff.1 h
  obtain ⟨-, payload, rfl⟩ := Header.decode_eq_ok_iff.1 hheader
  rw [Header.drop_encode_append] at hrecords
  obtain ⟨forms, rfl, rfl, hnone⟩ := exists_forms_of_decodeRecords hrecords
  exact ⟨fields, forms, rfl, rfl, fun hf => List.map_eq_nil_iff.1 (hnone hf)⟩

/-- **A response that is cut is never misread.** A response that is read is a header
and records, which end at certain places. Cut inside the header it is refused for its
header. Cut right behind the header or where a record ends, it is read as a result of
the same shape that has just the items that end before the cut. Cut anywhere else it
is refused because it ends too early, and for no other reason. -/
theorem decodeResponse_of_cut {response : Bytes} {result : SearchResult}
    (h : decodeResponse response = .ok result) :
    ∃ (fields : FieldSet) (forms : List (RecordForm.Of fields)),
      response = Header.encode fields ++ forms.flatMap (·.1.bytes) ∧
      result = .ofRecords fields (forms.map (·.1.record)) ∧
      ∀ cut, cut <+: response → cut ≠ response →
        (cut.length < headerLength → ∃ fault, decodeResponse cut = .error (.header fault)) ∧
        (headerLength ≤ cut.length →
          (cut.length ∈ headerLength :: RecordForm.ends headerLength forms →
            ∃ result', decodeResponse cut = .ok result' ∧ result'.kind = result.kind ∧
              result' = result.take
                ((RecordForm.ends headerLength forms).countP (· ≤ cut.length))) ∧
          (cut.length ∉ headerLength :: RecordForm.ends headerLength forms →
            ∃ offset needed remaining,
              decodeResponse cut = .error (.truncated offset needed remaining))) := by
  obtain ⟨fields, forms, hresponse, rfl, hnone⟩ := exists_forms_of_decodeResponse h
  refine ⟨fields, forms, hresponse, rfl, fun cut hkept hne => ⟨fun hshort => ?_, fun hle => ?_⟩⟩
  · obtain ⟨fault, hfault⟩ := Header.decode_of_short hshort
    exact ⟨fault, by rw [decodeResponse_eq, hfault]; rfl⟩
  obtain ⟨payload, rfl⟩ : Header.encode fields <+: cut :=
    List.prefix_of_prefix_length_le (hresponse ▸ List.prefix_append _ _) hkept hle
  obtain ⟨rest, hrest⟩ := hkept
  have hforms : forms.flatMap (·.1.bytes) = payload ++ rest := by
    rw [hresponse, List.append_assoc] at hrest
    exact (List.append_cancel_left hrest).symm
  have hf : fields ≠ .none := by
    intro hf
    rw [hnone hf] at hforms
    obtain ⟨rfl, rfl⟩ := List.append_eq_nil_iff.1 hforms.symm
    exact hne (by simpa using hrest)
  have hsize : (Header.encode fields ++ payload).length ≤ maxResponseSize := by
    obtain ⟨_, _, hheader, -⟩ := decodeResponse_eq_ok_iff.1 h
    have hmax := (Header.length_of_decode hheader).2
    rw [← hrest, List.length_append] at hmax
    omega
  have hdecode : decodeResponse (Header.encode fields ++ payload)
      = (decodeRecords fields payload).map (.ofRecords fields) := by
    rw [decodeResponse_eq, Header.decode_encode hsize]
    rfl
  obtain ⟨hok, hcut⟩ := RecordStream.collect_of_cut hf hforms headerLength headerLength []
  rw [hdecode, List.length_append, Header.length_encode, decodeRecords, RecordStream.ofPayload]
  constructor
  · intro hmem
    rw [hok hmem, List.map_take, List.reverse_nil, List.nil_append]
    exact ⟨_, congrArg Except.ok (SearchResult.take_ofRecords _ _ _).symm,
      SearchResult.kind_take _ _, rfl⟩
  · intro hmem
    obtain ⟨e, he, offset, needed, remaining, rfl⟩ := hcut hmem
    exact ⟨offset, needed, remaining, by rw [he]; rfl⟩

end

/-- Two records, the first with a letter of two bytes. Cut behind the first record the
response is read as that record; cut inside the letter or inside the second record it
ends too early; cut inside its first four bytes it has no header. -/
theorem decodeResponse_of_cut_insideLetter :
    let response : Bytes :=
      [0x54, 0x4D, 0x53, 3, 1, 3, 9, 1, 1, 0x6B, 1, 2, 0xC3, 0xA9, 7, 0, 0]
    let first : ImageRecord := ⟨none, none, some ((∅ : TagMap).insert 3 9),
      some ((∅ : AttributeMap).add "k" "é" 7)⟩
    let second : ImageRecord := ⟨none, none, some ∅, some ∅⟩
    decodeResponse response = .ok (.images [first, second]) ∧
      decodeResponse (response.take 15) = .ok (.images [first]) ∧
      (∃ offset needed remaining,
        decodeResponse (response.take 13) = .error (.truncated offset needed remaining)) ∧
      (∃ offset needed remaining,
        decodeResponse (response.take 16) = .error (.truncated offset needed remaining)) ∧
      ∃ fault, decodeResponse (response.take 2) = .error (.header fault) := by
  intro response first second
  let fields : FieldSet := ⟨false, false, true, true⟩
  let forms : List (RecordForm.Of fields) :=
    [⟨⟨none, none, some ⟨⟨.own, 1, by decide⟩,
        [⟨⟨.own, 3, by decide⟩, ⟨.own, 9, by decide⟩⟩], rfl⟩,
      some ⟨⟨.own, 1, by decide⟩, [⟨⟨⟨.own, 1, by decide⟩, "k", by decide, by decide⟩,
        ⟨⟨.own, 1, by decide⟩, [⟨⟨⟨.own, 2, by decide⟩, "é", by decide, by decide⟩,
          ⟨.own, 7, by decide⟩⟩], rfl⟩⟩], rfl⟩⟩, rfl⟩,
      ⟨⟨none, none, some ⟨⟨.own, 0, by decide⟩, [], rfl⟩, some ⟨⟨.own, 0, by decide⟩, [], rfl⟩⟩,
        rfl⟩]
  have hbytes : Header.encode fields ++ forms.flatMap (·.1.bytes) = response := by decide
  have hdecode : decodeResponse response = .ok (.images [first, second]) := by
    have hrecords : decodeRecords fields (forms.flatMap (·.1.bytes)) = .ok [first, second] :=
      (decodeRecords_eq_ok_iff (by decide)).2 ⟨forms, rfl, by decide⟩
    have hresponse := decodeResponse_of_decodeRecords (by decide) hrecords
    rwa [hbytes] at hresponse
  obtain ⟨fields', forms', hresponse, -, hcut⟩ := decodeResponse_of_cut hdecode
  obtain ⟨rfl, hflat⟩ := Header.encode_append_inj (hbytes.trans hresponse)
  obtain rfl : forms = forms' := (RecordForm.selfDelimiting fields).eq_of_flatMap_eq
    (RecordStream.bytes_ne_nil (by decide)) hflat
  have hends : RecordForm.ends headerLength forms = [15, 17] := by decide
  rw [hends] at hcut
  have hcut (n : Nat) (hne : response.take n ≠ response) :=
    hcut (response.take n) (List.take_prefix n response) hne
  obtain ⟨result', hfirst, -, rfl⟩ := ((hcut 15 (by decide)).2 (by decide)).1 (by decide)
  exact ⟨hdecode, hfirst, ((hcut 13 (by decide)).2 (by decide)).2 (by decide),
    ((hcut 16 (by decide)).2 (by decide)).2 (by decide), (hcut 2 (by decide)).1 (by decide)⟩

end Wire

end TagCatalog
