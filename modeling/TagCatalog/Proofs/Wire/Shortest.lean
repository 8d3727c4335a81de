import Mathlib.Tactic
import TagCatalog.Proofs.Wire.Meaning

/-!
What is written is a shortest form of what is meant.

A form may waste bytes: a number in a wide form, two users for one tag, one key in
two places. The record that it means is written without such waste.

* `NumeralForm.narrowest`, `Numeral.shortest`: the form that the writer takes;
  `NumeralForm.width_narrowest_le` and `width_narrowest_add_le` compare it with
  others.
* `RecordForm.length_encodeTags_le`, `length_encodeAttributes_le`: the maps that
  entries mean are written in no more bytes than the entries. For attributes this
  needs a bound: one key for the values of two has a count that may be wider than
  the two counts together, and only the bytes of the second key make up for it.
* `RecordForm.length_encodeRecord_le`: the same for records.
-/

namespace TagCatalog.Wire

/-! ### Numbers -/

namespace NumeralForm

/-- The narrowest form that holds a number. -/
def narrowest (n : Nat) : NumeralForm :=
  if n < 0xFD then .own else if n < UInt16.size then .two
  else if n < UInt32.size then .four else .eight

/-- The narrowest form holds the number. -/
lemma lt_bound_narrowest {n : Nat} (h : n < UInt64.size) : n < (narrowest n).bound := by
  rw [narrowest]
  split_ifs <;> assumption

/-- A form that holds a number is as wide as its narrowest form at least. -/
lemma width_narrowest_le {n : Nat} {f : NumeralForm} (h : n < f.bound) :
    (narrowest n).width ≤ f.width := by
  cases f <;> simp only [bound, UInt16.size, UInt32.size] at h <;>
    simp only [narrowest, UInt16.size, UInt32.size] <;> split_ifs <;>
      first | omega | decide

/-- A greater number is no narrower. -/
lemma width_narrowest_mono {m n : Nat} (h : m ≤ n) :
    (narrowest m).width ≤ (narrowest n).width := by
  simp only [narrowest, UInt16.size, UInt32.size]
  split_ifs <;> first | omega | decide

/-- A sum is wider by two bytes at most than its parts are together, as long as it
needs no eight bytes. -/
lemma width_narrowest_add_le {m n : Nat} (h : m + n < UInt32.size) :
    (narrowest (m + n)).width ≤ (narrowest m).width + (narrowest n).width + 2 := by
  simp only [narrowest, UInt16.size, UInt32.size] at h ⊢
  split_ifs <;> first | omega | decide

end NumeralForm

namespace Numeral

/-- A number in its narrowest form. -/
def shortest (n : UInt64) : Numeral :=
  ⟨.narrowest n.toNat, n, NumeralForm.lt_bound_narrowest n.toNat_lt⟩

/-- The writer takes the narrowest form. -/
@[simp] lemma bytes_shortest (n : UInt64) : (shortest n).bytes = Vli.encode n := by
  simp only [bytes, shortest, NumeralForm.narrowest, Vli.encode]
  split_ifs <;> rfl

/-- A number is written in no more bytes than any of its forms has. -/
lemma length_encode_le (t : Numeral) : (Vli.encode t.value).length ≤ t.bytes.length := by
  rw [← bytes_shortest, length_bytes, length_bytes]
  exact Nat.add_le_add_right (NumeralForm.width_narrowest_le t.fits) 1

/-- A number is written in a byte at least. -/
lemma one_le_length_encode (n : UInt64) : 1 ≤ (Vli.encode n).length := by
  rw [← bytes_shortest, length_bytes]
  exact Nat.le_add_left 1 _

end Numeral

/-! ### Counts and texts -/

/-- A count has a byte more than its narrowest form is wide. -/
lemma length_encodeCount {n : Nat} (h : n < UInt64.size) :
    (encodeCount n).length = (NumeralForm.narrowest n).width + 1 := by
  rw [encodeCount, ← Numeral.bytes_shortest, Numeral.length_bytes]
  change (NumeralForm.narrowest (UInt64.ofNat n).toNat).width + 1 = _
  rw [UInt64.toNat_ofNat_of_lt' h]

/-- A greater count is written in no fewer bytes. -/
lemma length_encodeCount_mono {m n : Nat} (h : m ≤ n) (hn : n < UInt64.size) :
    (encodeCount m).length ≤ (encodeCount n).length := by
  rw [length_encodeCount (h.trans_lt hn), length_encodeCount hn]
  exact Nat.add_le_add_right (NumeralForm.width_narrowest_mono h) 1

/-- A count that is not greater than a number is written in no more bytes. -/
lemma length_encodeCount_le {t : Numeral} {n : Nat} (h : n ≤ t.value.toNat) :
    (encodeCount n).length ≤ t.bytes.length := by
  rw [length_encodeCount (h.trans_lt t.value.toNat_lt), Numeral.length_bytes]
  exact Nat.add_le_add_right ((NumeralForm.width_narrowest_mono h).trans
    (NumeralForm.width_narrowest_le t.fits)) 1

/-- A count of more entries is wider by the count of these and one byte at most. -/
lemma length_encodeCount_add_le {m n : Nat} (h : m + n < UInt32.size) :
    (encodeCount (m + n)).length ≤ (encodeCount m).length + (encodeCount n).length + 1 := by
  have hle : UInt32.size ≤ UInt64.size := by decide
  have hwidth := NumeralForm.width_narrowest_add_le h
  rw [length_encodeCount (by omega), length_encodeCount (by omega),
    length_encodeCount (by omega)]
  omega

/-- A text is written in no more bytes than any of its forms has. -/
lemma TextForm.length_encodeString_le (t : TextForm) :
    (encodeString t.text).length ≤ t.bytes.length := by
  have hcount := length_encodeCount_le t.length_eq.ge
  rw [encodeString, TextForm.bytes, List.length_append, List.length_append]
  omega

/-! ### Entries -/

/-- A tag with its user is written in no more bytes than any of its forms has. -/
lemma TagForm.length_encodeTag_le (t : TagForm) :
    (encodeTag t.entry).length ≤ t.bytes.length := by
  have htag := t.tag.length_encode_le
  have huser := t.user.length_encode_le
  rw [encodeTag, TagForm.bytes, List.length_append, List.length_append]
  exact Nat.add_le_add htag huser

/-- A value with its user is written in no more bytes than any of its forms has. -/
lemma ValueForm.length_encodeValue_le (t : ValueForm) :
    (encodeValue t.entry).length ≤ t.bytes.length := by
  have hvalue := t.value.length_encodeString_le
  have huser := t.user.length_encode_le
  rw [encodeValue, ValueForm.bytes, List.length_append, List.length_append]
  exact Nat.add_le_add hvalue huser

/-- A text is written in a byte at least. -/
lemma one_le_length_encodeString (s : String) : 1 ≤ (encodeString s).length := by
  rw [encodeString, List.length_append]
  exact Nat.le_add_right_of_le (Numeral.one_le_length_encode _)

/-- A tag with its user is written in a byte at least for each of the two. -/
lemma leastEntry_le_encodeTag (e : TagId × UserId) : leastEntry ≤ (encodeTag e).length := by
  rw [encodeTag, List.length_append]
  exact Nat.add_le_add (Numeral.one_le_length_encode _) (Numeral.one_le_length_encode _)

/-- A value with its user is written in a byte at least for each of the two. -/
lemma leastEntry_le_encodeValue (e : String × UserId) : leastEntry ≤ (encodeValue e).length := by
  rw [encodeValue, List.length_append]
  exact Nat.add_le_add (one_le_length_encodeString _) (Numeral.one_le_length_encode _)

/-- A key with its values is written in a byte at least for each of the two. -/
lemma leastEntry_le_encodeKey (e : String × OrderedMap String UserId) :
    leastEntry ≤ (encodeKey e).length := by
  rw [encodeKey, List.length_append, List.length_append]
  exact Nat.le_add_right_of_le
    (Nat.add_le_add (one_le_length_encodeString _) (Numeral.one_le_length_encode _))

/-- Values under a key, in bytes. -/
def valuesLength (m : OrderedMap String UserId) : Nat := m.total fun e => (encodeValue e).length

/-- Keys with their values, in bytes. -/
def keysLength (m : AttributeMap) : Nat := m.total fun e => (encodeKey e).length

/-- No values take no bytes. -/
@[simp] lemma valuesLength_empty : valuesLength ∅ = 0 := rfl

/-- No keys take no bytes. -/
@[simp] lemma keysLength_empty : keysLength ∅ = 0 := rfl

/-- A key takes its text, its count and its values. -/
lemma length_encodeKey (k : String) (m : OrderedMap String UserId) :
    (encodeKey (k, m)).length
      = (encodeString k).length + (encodeCount m.size).length + valuesLength m := by
  rw [encodeKey, List.length_append, List.length_append, List.length_flatMap]
  rfl

/-- Forms whose values weigh no more than the bytes, all together. -/
lemma sum_le_length_flatMap {τ α : Type} (f : α → Nat) {bytes : τ → Bytes} {entry : τ → α}
    (h : ∀ t, f (entry t) ≤ (bytes t).length) (l : List τ) :
    ((l.map entry).map f).sum ≤ (l.flatMap bytes).length := by
  rw [List.length_flatMap, List.map_map]
  exact List.sum_le_sum fun t _ => h t

/-- Values put under a key take no more bytes than they are. -/
lemma valuesLength_foldl_put_le (l : List ValueForm) (m : OrderedMap String UserId) :
    valuesLength (l.foldl ValueForm.put m)
      ≤ valuesLength m + (l.flatMap ValueForm.bytes).length := by
  rw [foldl_put_value]
  exact (OrderedMap.total_foldl_insert_le _ _ m).trans (Nat.add_le_add_left
    (sum_le_length_flatMap (fun e => (encodeValue e).length) ValueForm.length_encodeValue_le l) _)

/-- Values put under a key number no more than they do. -/
lemma size_foldl_put_value_le (l : List ValueForm) (m : OrderedMap String UserId) :
    (l.foldl ValueForm.put m).size ≤ m.size + l.length := by
  rw [foldl_put_value, ← List.length_map ValueForm.entry]
  exact OrderedMap.size_foldl_insert_le _ m

/-- There are no more values under a key than bytes of them. -/
lemma size_le_valuesLength (m : OrderedMap String UserId) : m.size ≤ valuesLength m := by
  rw [OrderedMap.size_eq_total]
  exact m.total_le_total fun e =>
    (show 1 ≤ leastEntry by decide).trans (leastEntry_le_encodeValue e)

/-! ### Keys -/

namespace KeyForm

/-- The bytes of a key: its text, its count and its values. -/
lemma length_bytes (t : KeyForm) :
    t.bytes.length = t.key.bytes.length + t.values.count.bytes.length
      + (t.values.items.flatMap ValueForm.bytes).length := by
  rw [bytes, Counted.bytes, List.length_append, List.length_append, Nat.add_assoc]

/-- A key that is new is written in no more bytes than it is. -/
lemma length_encodeKey_new_le (t : KeyForm) :
    (encodeKey (t.key.text, t.values.items.foldl ValueForm.put ∅)).length ≤ t.bytes.length := by
  have hkey := t.key.length_encodeString_le
  have hvalues := valuesLength_foldl_put_le t.values.items ∅
  have hsize := size_foldl_put_value_le t.values.items ∅
  rw [valuesLength_empty] at hvalues
  rw [OrderedMap.size_empty, Nat.zero_add] at hsize
  have hcount := length_encodeCount_le (hsize.trans t.values.count_eq.ge)
  rw [length_encodeKey, length_bytes]
  omega

/-- A key that is there already saves its bytes, and these pay for the wider
count. -/
lemma length_encodeKey_again_le (t : KeyForm) {m : OrderedMap String UserId}
    (h : valuesLength m + t.bytes.length < UInt32.size) :
    (encodeKey (t.key.text, t.values.items.foldl ValueForm.put m)).length
      ≤ (encodeKey (t.key.text, m)).length + t.bytes.length := by
  have hword : UInt32.size ≤ UInt64.size := by decide
  have hkey : 1 ≤ t.key.bytes.length := by
    rw [TextForm.bytes, List.length_append, Numeral.length_bytes]
    omega
  have hitems := length_mul_le_flatMap ValueForm.leastEntry_le t.values.items
  have hold := size_le_valuesLength m
  rw [length_bytes] at h
  rw [leastEntry] at hitems
  have hvalues := valuesLength_foldl_put_le t.values.items m
  have hwider := calc
    (encodeCount (t.values.items.foldl ValueForm.put m).size).length
      ≤ (encodeCount (m.size + t.values.items.length)).length :=
        length_encodeCount_mono (size_foldl_put_value_le _ m) (by omega)
    _ ≤ (encodeCount m.size).length + (encodeCount t.values.items.length).length + 1 :=
        length_encodeCount_add_le (by omega)
    _ ≤ (encodeCount m.size).length + t.values.count.bytes.length + t.key.bytes.length :=
        Nat.add_le_add (Nat.add_le_add_left (length_encodeCount_le t.values.count_eq.ge) _) hkey
  rw [length_encodeKey, length_encodeKey, length_bytes]
  omega

/-- One more key adds no more bytes than it has, as long as all of them are few. -/
lemma keysLength_put_le {m : AttributeMap} {t : KeyForm}
    (h : keysLength m + t.bytes.length < UInt32.size) :
    keysLength (put m t) ≤ keysLength m + t.bytes.length := by
  have hsum : keysLength (put m t) + _ = keysLength m + _ :=
    OrderedMap.total_insert_add (fun e => (encodeKey e).length) m t.key.text _
  cases hget : m.get? t.key.text with
  | none =>
    have hnew := t.length_encodeKey_new_le
    rw [hget, Option.getD_none, Option.elim_none] at hsum
    omega
  | some old =>
    have hold : (encodeKey (t.key.text, old)).length ≤ keysLength m :=
      OrderedMap.le_total_of_get? (fun e => (encodeKey e).length) hget
    have hold' := length_encodeKey t.key.text old
    have hagain := t.length_encodeKey_again_le (m := old) (by omega)
    rw [hget, Option.getD_some, Option.elim_some] at hsum
    omega

/-- Keys add no more bytes than they have, as long as all of them are few. -/
lemma keysLength_foldl_put_le {l : List KeyForm} {m : AttributeMap}
    (h : keysLength m + (l.flatMap bytes).length < UInt32.size) :
    keysLength (l.foldl put m) ≤ keysLength m + (l.flatMap bytes).length := by
  induction l generalizing m with
  | nil => simp
  | cons t l ih =>
    rw [List.flatMap_cons, List.length_append] at h ⊢
    have hput := keysLength_put_le (m := m) (t := t) (by omega)
    have hrest := ih (m := put m t) (by omega)
    rw [List.foldl_cons]
    omega

/-- Keys put into a map number no more than they do. -/
lemma size_foldl_put_le (l : List KeyForm) (m : AttributeMap) :
    (l.foldl put m).size ≤ m.size + l.length := by
  induction l generalizing m with
  | nil => simp
  | cons t l ih =>
    have hput : (put m t).size ≤ m.size + 1 := OrderedMap.size_insert_le m _ _
    have hrest := ih (put m t)
    rw [List.foldl_cons, List.length_cons]
    omega

end KeyForm

/-! ### Records -/

namespace RecordForm

/-- The tags that entries tell number no more than the entries. -/
lemma size_tagMap_le (t : Counted TagForm) : (tagMap t).size ≤ t.items.length := by
  have hle := OrderedMap.size_foldl_insert_le (t.items.map TagForm.entry) ∅
  rwa [← foldl_put_tag, List.length_map, OrderedMap.size_empty, Nat.zero_add] at hle

/-- Tags are written in no more bytes than they have. -/
lemma length_encodeTags_le (t : Counted TagForm) :
    (encodeTags (tagMap t)).length ≤ (t.bytes TagForm.bytes).length := by
  have hcount := length_encodeCount_le ((size_tagMap_le t).trans t.count_eq.ge)
  have hentries : ((tagMap t).total fun e => (encodeTag e).length)
      ≤ (t.items.flatMap TagForm.bytes).length := by
    have hle := OrderedMap.total_foldl_insert_le (fun e => (encodeTag e).length)
      (t.items.map TagForm.entry) ∅
    rw [← foldl_put_tag, OrderedMap.total_empty, Nat.zero_add] at hle
    exact hle.trans
      (sum_le_length_flatMap (fun e => (encodeTag e).length) TagForm.length_encodeTag_le t.items)
  rw [encodeTags, Counted.bytes, List.length_append, List.length_append, List.length_flatMap]
  exact Nat.add_le_add hcount hentries

/-- Attributes are written in no more bytes than they have, as long as these are
few. -/
lemma length_encodeAttributes_le {t : Counted KeyForm}
    (h : (t.bytes KeyForm.bytes).length < UInt32.size) :
    (encodeAttributes (attributeMap t)).length ≤ (t.bytes KeyForm.bytes).length := by
  rw [Counted.bytes, List.length_append] at h ⊢
  have hsize : (attributeMap t).size ≤ t.items.length := by
    have hle := KeyForm.size_foldl_put_le t.items ∅
    rwa [OrderedMap.size_empty, Nat.zero_add] at hle
  have hcount := length_encodeCount_le (hsize.trans t.count_eq.ge)
  have hkeys : keysLength (attributeMap t) ≤ (t.items.flatMap KeyForm.bytes).length := by
    have hle := KeyForm.keysLength_foldl_put_le (l := t.items) (m := ∅)
      (by rw [keysLength_empty]; omega)
    rwa [keysLength_empty, Nat.zero_add] at hle
  rw [encodeAttributes, List.length_append, List.length_flatMap]
  exact Nat.add_le_add hcount hkeys

/-- **A record is written in no more bytes than any of its forms has**, as long as
these are few. -/
theorem length_encodeRecord_le {t : RecordForm} (h : t.bytes.length < UInt32.size) :
    (encodeRecord t.fields t.record).length ≤ t.bytes.length := by
  obtain ⟨id, hash, tags, attributes⟩ := t
  have hattributes : (attributes.elim [] (Counted.bytes KeyForm.bytes)).length < UInt32.size := by
    refine lt_of_le_of_lt ?_ h
    simp only [bytes, List.length_append]
    omega
  simp only [encodeRecord, bytes, List.length_append, ← Nat.add_assoc]
  refine Nat.add_le_add (Nat.add_le_add (Nat.add_le_add ?_ ?_) ?_) ?_
  · cases id <;> exact le_rfl
  · cases hash <;> exact le_rfl
  · cases tags with
    | none => exact le_rfl
    | some tags => exact length_encodeTags_le tags
  · cases attributes with
    | none => exact le_rfl
    | some attributes => exact length_encodeAttributes_le hattributes

/-- The same for a payload of records. -/
lemma length_encodeRecords_le {fields : FieldSet} {forms : List (Of fields)}
    (h : (forms.flatMap (·.1.bytes)).length < UInt32.size) :
    (encodeRecords fields (forms.map (·.1.record))).length
      ≤ (forms.flatMap (·.1.bytes)).length := by
  induction forms with
  | nil => exact le_rfl
  | cons t forms ih =>
    rw [List.flatMap_cons, List.length_append] at h
    have hrecord := length_encodeRecord_le (t := t.1) (by omega)
    have hrest := ih (by omega)
    rw [t.2] at hrecord
    rw [encodeRecords] at hrest
    rw [List.map_cons, encodeRecords, List.flatMap_cons, List.flatMap_cons, List.length_append,
      List.length_append]
    exact Nat.add_le_add hrecord hrest

end RecordForm

end TagCatalog.Wire
