import Mathlib.Tactic
import TagCatalog.Proofs.Wire.Locations
import TagCatalog.Proofs.Wire.Reencoding

/-!
Records taken from a payload one call at a time.

* `ImageRecord.content`: what a record holds, in bytes;
  `RecordForm.content_record_le`: it is read from as many bytes at least.
* `RecordStream.after`, `RecordStream.answer`: the stream after so many calls, and
  the answer of the next one.
* `RecordStream.next_cases`: all that one call can do; `Ended.answer`, `answer_eq_none_iff`,
  `add_remaining_le` and `sum_content_add_remaining_le` are by induction on the calls.
* `RecordStream.collect_cases`: all records at once are the answers of the calls, by
  induction on the bytes left.
* `recordStream_ends`: the calls on a payload come to an end.
-/

namespace TagCatalog

open OrderedMap (total_insert_add total_foldl_insert_le)

/-! ### What a record holds -/

/-- The bytes of the values under a key. -/
def valuesContent (m : OrderedMap String UserId) : Nat := m.total fun v => v.1.utf8ByteSize

/-- The bytes of the keys and of the values under them. -/
def AttributeMap.content (m : AttributeMap) : Nat :=
  m.total fun e => e.1.utf8ByteSize + valuesContent e.2

/-- What a record holds, in bytes: those of an id and of a hash, two for each tag, and
those of each key and value. -/
def ImageRecord.content (r : ImageRecord) : Nat :=
  r.id.elim 0 (fun _ => Wire.FieldList.idWidth) + r.hash.elim 0 (fun _ => ImageHash.size) +
    r.tags.elim 0 (fun m => 2 * m.size) + r.attributes.elim 0 AttributeMap.content

namespace Wire

/-- The bytes of a text are part of its form. -/
lemma TextForm.utf8ByteSize_le (t : TextForm) : t.text.utf8ByteSize ≤ t.bytes.length := by
  rw [bytes, List.length_append, Utf8.length_encode]
  exact Nat.le_add_left _ _

/-- Values put under a key hold no more than their bytes. -/
lemma valuesContent_foldl_put_le (l : List ValueForm) (m : OrderedMap String UserId) :
    valuesContent (l.foldl ValueForm.put m)
      ≤ valuesContent m + (l.flatMap ValueForm.bytes).length := by
  rw [foldl_put_value]
  refine (total_foldl_insert_le _ _ m).trans (Nat.add_le_add_left ?_ _)
  refine sum_le_length_flatMap (fun v : String × UserId => v.1.utf8ByteSize) (fun t => ?_) l
  have hvalue := t.value.utf8ByteSize_le
  rw [ValueForm.bytes, List.length_append]
  exact Nat.le_add_right_of_le hvalue

/-- One more key adds no more than its bytes. -/
lemma KeyForm.content_put_le (m : AttributeMap) (t : KeyForm) :
    (put m t).content ≤ m.content + t.bytes.length := by
  have hsum : (put m t).content + _ = m.content + _ :=
    total_insert_add (fun e => e.1.utf8ByteSize + valuesContent e.2) m t.key.text _
  have hkey := t.key.utf8ByteSize_le
  have hvalues := valuesContent_foldl_put_le t.values.items ((m.get? t.key.text).getD ∅)
  rw [length_bytes]
  cases hget : m.get? t.key.text with
  | none =>
    rw [hget, Option.getD_none] at hvalues
    rw [hget, Option.getD_none, Option.elim_none] at hsum
    have hempty : valuesContent ∅ = 0 := rfl
    dsimp only at hsum
    omega
  | some old =>
    -- the key is there already, and its text is counted once
    rw [hget, Option.getD_some] at hvalues
    rw [hget, Option.getD_some, Option.elim_some] at hsum
    dsimp only at hsum
    omega

/-- Keys hold no more than their bytes. -/
lemma KeyForm.content_foldl_put_le (l : List KeyForm) (m : AttributeMap) :
    (l.foldl put m).content ≤ m.content + (l.flatMap bytes).length := by
  induction l generalizing m with
  | nil => simp
  | cons t l ih =>
    have hput := content_put_le m t
    have hrest := ih (put m t)
    rw [List.foldl_cons, List.flatMap_cons, List.length_append]
    omega

namespace RecordForm

/-- Tags hold no more than their bytes. -/
lemma size_tagMap_mul_le (t : Counted TagForm) :
    2 * (tagMap t).size ≤ (t.bytes TagForm.bytes).length := by
  have hsize := size_tagMap_le t
  have hentries := length_mul_le_flatMap TagForm.leastEntry_le t.items
  rw [leastEntry] at hentries
  rw [Counted.bytes, List.length_append]
  omega

/-- Attributes hold no more than their bytes. -/
lemma content_attributeMap_le (t : Counted KeyForm) :
    (attributeMap t).content ≤ (t.bytes KeyForm.bytes).length := by
  have hkeys := KeyForm.content_foldl_put_le t.items ∅
  have hempty : (∅ : AttributeMap).content = 0 := rfl
  rw [hempty, Nat.zero_add] at hkeys
  rw [Counted.bytes, List.length_append]
  exact Nat.le_add_left_of_le hkeys

/-- A record holds no more than the bytes from which it is read. -/
lemma content_record_le (t : RecordForm) : t.record.content ≤ t.bytes.length := by
  obtain ⟨id, hash, tags, attributes⟩ := t
  simp only [ImageRecord.content, record, bytes, List.length_append, ← Nat.add_assoc]
  refine Nat.add_le_add (Nat.add_le_add (Nat.add_le_add ?_ ?_) ?_) ?_
  · cases id with
    | none => exact le_rfl
    | some id => exact (LittleEndian.length_encode _ _).ge
  · cases hash with
    | none => exact le_rfl
    | some hash => exact hash.length_bytes.ge
  · cases tags with
    | none => exact le_rfl
    | some tags => exact size_tagMap_mul_le tags
  · cases attributes with
    | none => exact le_rfl
    | some attributes => exact content_attributeMap_le attributes

end RecordForm

/-! ### One call -/

namespace RecordStream

variable {s t : RecordStream}

/-- A stream has ended when an error has been met or no bytes are left. -/
def Ended (s : RecordStream) : Prop := s.failed = true ∨ s.cursor.rest = []

/-- What a record leaves of a stream: the fields, which are those of the record, and
the bytes without those that it holds, one at least being taken. -/
structure Takes (s t : RecordStream) (r : ImageRecord) : Prop where
  selected : FieldSet.ofRecord r = s.fields
  fields : t.fields = s.fields
  failed : t.failed = s.failed
  content : r.content + t.remaining ≤ s.remaining
  lt : t.remaining < s.remaining

/-- All that a call can do: nothing on a stream that has ended, or end it by an
error, or take a record. -/
lemma next_cases (s : RecordStream) :
    (s.Ended ∧ s.next.1 = none ∧ s.next.2 = s) ∨
    (∃ e, s.next.1 = some (.error e) ∧ s.next.2.Ended ∧ s.next.2.fields = s.fields ∧
      s.next.2.remaining ≤ s.remaining) ∨
    ∃ r, s.next.1 = some (.ok r) ∧ s.Takes s.next.2 r := by
  by_cases hended : s.failed || s.cursor.rest.isEmpty
  · rw [next, if_pos hended]
    exact .inl ⟨by simpa [Ended] using hended, rfl, rfl⟩
  · by_cases hf : s.fields = .none
    · rw [next, if_neg hended, if_pos hf]
      exact .inr (.inl ⟨_, rfl, .inl rfl, rfl, le_rfl⟩)
    · rw [next, if_neg hended, if_neg hf]
      rcases hr : Read.record s.fields s.cursor with ⟨e | r, c⟩
      · have hlocates : Read.Locates 0 (Read.record s.fields) := Read.closed_locates.record s.fields
        have hle := hlocates.advances.remaining_le s.cursor
        rw [hr] at hle
        exact .inr (.inl ⟨e, rfl, .inl rfl, rfl, hle⟩)
      · obtain ⟨form, rfl, hpasses⟩ := (Read.reads_record s.fields _ _ _).1 hr
        have hcontent := form.1.content_record_le
        have hbytes := hpasses.remaining_eq
        refine .inr (.inr ⟨_, rfl, form.1.ofRecord_record.trans form.2, rfl, rfl, ?_,
          Read.consumes_record hf _ _ _ hr⟩)
        change form.1.record.content + c.remaining ≤ s.cursor.remaining
        rw [hbytes]
        exact Nat.add_le_add_right hcontent _

/-- A stream that has ended answers no more and stays what it is. -/
lemma Ended.next (h : s.Ended) : s.next = (none, s) := by
  rw [RecordStream.next, if_pos (by simpa [Ended] using h)]

/-! ### Calls one after another -/

/-- The stream after so many calls. -/
def after (s : RecordStream) (n : Nat) : RecordStream := (fun t => t.next.2)^[n] s

/-- The answer of the call that comes after so many. -/
def answer (s : RecordStream) (n : Nat) : Option (Except DecodeError ImageRecord) :=
  (s.after n).next.1

/-- What the record holds, if one is the answer of the call that comes after so
many. -/
def contentAt (s : RecordStream) (n : Nat) : Nat :=
  match s.answer n with
  | some (.ok r) => r.content
  | _ => 0

/-- One more call, at the end. -/
lemma after_succ (s : RecordStream) (n : Nat) : s.after (n + 1) = (s.after n).next.2 :=
  Function.iterate_succ_apply' _ n s

/-- One more call, at the start. -/
lemma after_succ_start (s : RecordStream) (n : Nat) : s.after (n + 1) = s.next.2.after n :=
  Function.iterate_succ_apply _ n s

/-- The calls after the first are those on what the first leaves. -/
lemma answer_succ (s : RecordStream) (n : Nat) : s.answer (n + 1) = s.next.2.answer n := by
  rw [answer, after_succ_start]
  rfl

/-- All that one call of many can do. -/
lemma answer_cases (s : RecordStream) (n : Nat) :
    ((s.after n).Ended ∧ s.answer n = none ∧ s.after (n + 1) = s.after n) ∨
    (∃ e, s.answer n = some (.error e) ∧ (s.after (n + 1)).Ended ∧
      (s.after (n + 1)).fields = (s.after n).fields ∧
      (s.after (n + 1)).remaining ≤ (s.after n).remaining) ∨
    ∃ r, s.answer n = some (.ok r) ∧ (s.after n).Takes (s.after (n + 1)) r := by
  rw [after_succ]
  exact (s.after n).next_cases

/-- The fields stay the same. -/
@[simp] lemma fields_after (s : RecordStream) (n : Nat) : (s.after n).fields = s.fields := by
  induction n with
  | zero => rfl
  | succ n ih =>
    rcases s.answer_cases n with ⟨-, -, hsame⟩ | ⟨e, -, -, hfields, -⟩ | ⟨r, -, htakes⟩
    · rw [hsame, ih]
    · rw [hfields, ih]
    · rw [htakes.fields, ih]

/-- A record is a part of the stream from which it is taken. -/
lemma takes_of_answer {n : Nat} {r : ImageRecord} (h : s.answer n = some (.ok r)) :
    (s.after n).Takes (s.after (n + 1)) r := by
  rcases s.answer_cases n with ⟨-, hnone, -⟩ | ⟨e, herror, -⟩ | ⟨r', hok, htakes⟩
  · rw [h] at hnone
    cases hnone
  · rw [h] at herror
    cases herror
  · rw [h] at hok
    cases hok
    exact htakes

/-- A call that takes no record leaves a stream that has ended. -/
lemma ended_of_answer {n : Nat} (h : ∀ r, s.answer n ≠ some (.ok r)) :
    (s.after (n + 1)).Ended := by
  rcases s.answer_cases n with ⟨hended, -, hsame⟩ | ⟨e, -, hended, -⟩ | ⟨r, hok, -⟩
  · rwa [hsame]
  · exact hended
  · exact absurd hok (h r)

/-- Once a stream has ended, no call answers or changes it. -/
lemma Ended.answer {m n : Nat} (h : (s.after m).Ended) (hmn : m ≤ n) :
    s.answer n = none ∧ s.after n = s.after m := by
  have hafter : s.after n = s.after m := by
    induction n, hmn using Nat.le_induction with
    | base => rfl
    | succ n _ ih => rw [after_succ, ih, h.next]
  rw [RecordStream.answer, hafter, h.next]
  exact ⟨rfl, rfl⟩

/-- After a call that takes no record, no call answers or changes the stream. -/
lemma answer_eq_none {m n : Nat} (h : ∀ r, s.answer m ≠ some (.ok r)) (hmn : m < n) :
    s.answer n = none ∧ s.after n = s.after (m + 1) :=
  (ended_of_answer h).answer hmn

/-- A stream has failed only after an error. -/
lemma exists_error_of_failed (hs : s.failed = false) {n : Nat} (h : (s.after n).failed = true) :
    ∃ m < n, ∃ e, s.answer m = some (.error e) := by
  induction n with
  | zero => cases hs.symm.trans h
  | succ n ih =>
    by_cases herror : ∃ e, s.answer n = some (.error e)
    · exact ⟨n, n.lt_succ_self, herror⟩
    · have hsame : (s.after (n + 1)).failed = (s.after n).failed := by
        rcases s.answer_cases n with ⟨-, -, hsame⟩ | ⟨e, he, -⟩ | ⟨r, -, htakes⟩
        · rw [hsame]
        · exact absurd ⟨e, he⟩ herror
        · exact htakes.failed
      obtain ⟨m, hm, he⟩ := ih (hsame ▸ h)
      exact ⟨m, hm.trans n.lt_succ_self, he⟩

/-- A call answers nothing exactly if no byte is left or an error came before. -/
lemma answer_eq_none_iff (hs : s.failed = false) {n : Nat} : s.answer n = none ↔
    (s.after n).remaining = 0 ∨ ∃ m < n, ∃ e, s.answer m = some (.error e) := by
  constructor
  · intro hnone
    rcases s.answer_cases n with ⟨hfailed | hrest, -⟩ | ⟨e, herror, -⟩ | ⟨r, hok, -⟩
    · exact .inr (exists_error_of_failed hs hfailed)
    · exact .inl (List.length_eq_zero_iff.2 hrest)
    · cases hnone.symm.trans herror
    · cases hnone.symm.trans hok
  · rintro (hzero | ⟨m, hm, e, herror⟩)
    · exact (Ended.answer (.inr (List.length_eq_zero_iff.1 hzero)) le_rfl).1
    · exact (answer_eq_none (fun r hr => by cases herror.symm.trans hr) hm).1

/-- A call that answers finds a byte, and those before it have taken one each. -/
lemma add_remaining_le {n : Nat} (h : s.answer n ≠ none) :
    0 < (s.after n).remaining ∧ n + (s.after n).remaining ≤ s.remaining := by
  constructor
  · rw [Nat.pos_iff_ne_zero]
    intro hzero
    have hended : (s.after n).Ended := .inr (List.length_eq_zero_iff.1 hzero)
    exact h (hended.answer le_rfl).1
  · induction n with
    | zero => exact (Nat.zero_add _).le
    | succ n ih =>
      by_cases hok : ∃ r, s.answer n = some (.ok r)
      · obtain ⟨r, hr⟩ := hok
        have hbefore := ih (by rw [hr]; exact Option.some_ne_none _)
        have hlt := (takes_of_answer hr).lt
        omega
      · exact absurd (answer_eq_none (fun r hr => hok ⟨r, hr⟩) n.lt_succ_self).1 h

/-- The records taken and the bytes left are no more than the bytes that there
were. -/
lemma sum_content_add_remaining_le (s : RecordStream) (n : Nat) :
    ∑ i ∈ Finset.range n, s.contentAt i + (s.after n).remaining ≤ s.remaining := by
  induction n with
  | zero => exact (Nat.zero_add _).le
  | succ n ih =>
    have hstep : s.contentAt n + (s.after (n + 1)).remaining ≤ (s.after n).remaining := by
      rw [contentAt]
      rcases s.answer_cases n with ⟨-, hnone, hsame⟩ | ⟨e, herror, -, -, hle⟩ | ⟨r, hok, htakes⟩
      · rw [hnone, hsame, Nat.zero_add]
      · rwa [herror, Nat.zero_add]
      · rw [hok]
        exact htakes.content
    rw [Finset.sum_range_succ]
    omega

/-! ### All calls -/

/-- The records collected are the answers of the calls, and so is the error if there
is one. -/
lemma collect_cases (done : List ImageRecord) (s : RecordStream) :
    (∃ n e, s.answer n = some (.error e) ∧ collect done s = .error e) ∨
    ∃ records, collect done s = .ok (done.reverse ++ records) ∧
      ∀ n, s.answer n = records[n]?.map .ok := by
  -- on the bytes left, which each record makes fewer
  induction hn : s.remaining using Nat.strong_induction_on generalizing s done with
  | _ n ih =>
    rcases s.next_cases with ⟨hended, -, -⟩ | ⟨e, herror, -⟩ | ⟨r, hok, htakes⟩
    · refine .inr ⟨[], ?_, fun n => (hended.answer (m := 0) n.zero_le).1⟩
      rw [collect_of_next_none hended.next, List.append_nil]
    · exact .inl ⟨0, e, herror, collect_of_next_error (Prod.ext herror rfl)⟩
    · rw [collect_of_next_ok (Prod.ext hok rfl)]
      rcases ih _ (hn ▸ htakes.lt) (r :: done) s.next.2 rfl with
        ⟨n, e, herror, hcollect⟩ | ⟨records, hcollect, hanswers⟩
      · exact .inl ⟨n + 1, e, (s.answer_succ n).trans herror, hcollect⟩
      · refine .inr ⟨r :: records, by rw [hcollect]; simp, fun n => ?_⟩
        cases n with
        | zero => exact hok
        | succ n => exact (s.answer_succ n).trans (hanswers n)

/-- There is one error at most. -/
lemma answer_error_unique {m n : Nat} {e e' : DecodeError} (h : s.answer m = some (.error e))
    (h' : s.answer n = some (.error e')) : m = n := by
  have hlast {k l : Nat} {d d' : DecodeError} (hk : s.answer k = some (.error d))
      (hl : s.answer l = some (.error d')) : l ≤ k := by
    by_contra hlt
    have hnone := (answer_eq_none (m := k) (fun r => by rw [hk]; simp) (Nat.lt_of_not_le hlt)).1
    rw [hl] at hnone
    cases hnone
  exact Nat.le_antisymm (hlast h' h) (hlast h h')

/-- Records are collected if and only if they are the answers of the calls. -/
lemma collect_eq_ok_iff_answer {records : List ImageRecord} :
    collect [] s = .ok records ↔ ∀ n, s.answer n = records[n]?.map .ok := by
  rcases collect_cases [] s with ⟨n, e, herror, hcollect⟩ | ⟨records', hcollect, hanswers⟩
  · rw [hcollect]
    refine iff_of_false nofun fun h => ?_
    have hn := h n
    rw [herror] at hn
    cases hr : records[n]? <;> rw [hr] at hn <;> cases hn
  · rw [hcollect, List.reverse_nil, List.nil_append, Except.ok.injEq]
    constructor
    · rintro rfl
      exact hanswers
    · intro h
      refine List.ext_getElem? fun n => ?_
      exact Option.map_injective (fun _ _ => Except.ok.inj) ((hanswers n).symm.trans (h n))

/-- An error ends the collecting if and only if it is the answer of a call. -/
lemma collect_eq_error_iff_answer {e : DecodeError} :
    collect [] s = .error e ↔ ∃ n, s.answer n = some (.error e) := by
  rcases collect_cases [] s with ⟨n, e', herror, hcollect⟩ | ⟨records, hcollect, hanswers⟩
  · rw [hcollect, Except.error.injEq]
    constructor
    · rintro rfl
      exact ⟨n, herror⟩
    · rintro ⟨m, hm⟩
      rw [answer_error_unique hm herror, herror] at hm
      cases hm
      rfl
  · rw [hcollect]
    refine iff_of_false nofun ?_
    rintro ⟨n, hn⟩
    rw [hanswers] at hn
    cases hr : records[n]? <;> rw [hr] at hn <;> cases hn

end RecordStream

open RecordStream (takes_of_answer add_remaining_le sum_content_add_remaining_le answer_eq_none
  answer_eq_none_iff answer_error_unique collect_eq_ok_iff_answer collect_eq_error_iff_answer)

/-- **The records of a payload come to an end.** Whatever fields are selected, and
whatever the bytes are:

* a record has just the fields, and the bytes left are fewer by what it holds, and by
  one at least;
* there are no more answers than bytes, and the records taken hold no more bytes than
  are gone;
* there is one error at most, and after an error or an end no call answers or takes
  bytes; a call answers nothing only if no byte is left or an error came before;
* all records at once are the answers, if none is an error, and else the error. -/
theorem recordStream_ends (fields : FieldSet) (payload : Bytes) :
    let s := RecordStream.ofPayload fields payload
    (∀ n r, s.answer n = some (.ok r) → FieldSet.ofRecord r = fields ∧
      r.content + (s.after (n + 1)).remaining ≤ (s.after n).remaining ∧
      (s.after (n + 1)).remaining < (s.after n).remaining) ∧
    (∀ n, s.answer n ≠ none → n < payload.length) ∧
    (∀ n, ∑ i ∈ Finset.range n, s.contentAt i + (s.after n).remaining ≤ payload.length) ∧
    (∀ m n e e', s.answer m = some (.error e) → s.answer n = some (.error e') → m = n) ∧
    (∀ m n, (∀ r, s.answer m ≠ some (.ok r)) → m < n →
      s.answer n = none ∧ (s.after n).remaining = (s.after (m + 1)).remaining) ∧
    (∀ n, s.answer n = none ↔
      (s.after n).remaining = 0 ∨ ∃ m < n, ∃ e, s.answer m = some (.error e)) ∧
    (∀ records, decodeRecords fields payload = .ok records ↔
      ∀ n, s.answer n = records[n]?.map .ok) ∧
    ∀ e, decodeRecords fields payload = .error e ↔ ∃ n, s.answer n = some (.error e) := by
  intro s
  refine ⟨fun n r h => ?_, fun n h => ?_, sum_content_add_remaining_le s,
    fun m n e e' => answer_error_unique, fun m n h hmn => ?_, fun n => answer_eq_none_iff rfl,
    fun records => collect_eq_ok_iff_answer, fun e => collect_eq_error_iff_answer⟩
  · have htakes := takes_of_answer h
    exact ⟨htakes.selected.trans (s.fields_after n), htakes.content, htakes.lt⟩
  · obtain ⟨hpos, hle⟩ := add_remaining_le h
    change n + (s.after n).remaining ≤ payload.length at hle
    omega
  · obtain ⟨hnone, hsame⟩ := answer_eq_none h hmn
    exact ⟨hnone, by rw [hsame]⟩

end Wire

end TagCatalog
