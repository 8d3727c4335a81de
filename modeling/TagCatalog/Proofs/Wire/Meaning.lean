import Mathlib.Tactic
import TagCatalog.Proofs.OrderedMap
import TagCatalog.Proofs.Wire.Forms

/-!
What a record form tells, entry by entry.

`RecordForm.record` folds the entries of a form into maps. Here the same is said
without a fold, by what each look-up answers: the last user for a tag, the last
user for a value under a key, and a key for every key that is written, its values
taken from all places where it stands.

* `get?_tagMap`, `isSome_get?_attributeMap`, `get?_get?_attributeMap`: the
  look-ups in the folded maps.
* `RecordForm.Tells`: a record whose look-ups answer so; `tells_iff_eq_record`:
  there is exactly one, the folded one.
-/

namespace TagCatalog.Wire

open OrderedMap (lastValue lastValue_append get?_empty get?_foldl_insert get?_insert)

/-! ### Tags and values -/

/-- Tags put in one after another are inserted one after another. -/
lemma foldl_put_tag (l : List TagForm) (m : TagMap) :
    l.foldl TagForm.put m = (l.map TagForm.entry).foldl (fun m e => m.insert e.1 e.2) m := by
  rw [List.foldl_map]
  rfl

/-- Values put in one after another are inserted one after another. -/
lemma foldl_put_value (l : List ValueForm) (m : OrderedMap String UserId) :
    l.foldl ValueForm.put m
      = (l.map ValueForm.entry).foldl (fun m e => m.insert e.1 e.2) m := by
  rw [List.foldl_map]
  rfl

/-- A tag has the last user given for it. -/
lemma get?_tagMap (f : Counted TagForm) (k : TagId) :
    (RecordForm.tagMap f).get? k = lastValue k (f.items.map TagForm.entry) := by
  rw [RecordForm.tagMap, foldl_put_tag, get?_foldl_insert, get?_empty, Option.or_none]

/-! ### Keys -/

/-- The last user for a value under a key, among the values of one key. -/
lemma lastValue_triples (t : KeyForm) (k v : String) :
    lastValue (k, v) t.triples
      = if t.key.text = k then lastValue v (t.values.items.map ValueForm.entry) else none := by
  rw [KeyForm.triples]
  induction t.values.items with
  | nil => simp [lastValue]
  | cons i l ih =>
    rw [List.map_cons, List.map_cons, lastValue, lastValue, ih]
    by_cases hk : t.key.text = k <;> by_cases hv : i.value.text = v <;>
      simp [hk, hv, ValueForm.entry]

/-- After a key is put in, it is there, and the other keys are what they were. -/
lemma isSome_get?_put (m : AttributeMap) (t : KeyForm) (k : String) :
    ((KeyForm.put m t).get? k).isSome ↔ t.key.text = k ∨ (m.get? k).isSome := by
  rw [KeyForm.put, get?_insert]
  by_cases hk : t.key.text = k <;> simp [hk]

/-- After a key is put in, its values are seen before those that it had. -/
lemma get?_get?_put (m : AttributeMap) (t : KeyForm) (k v : String) :
    ((KeyForm.put m t).get? k).bind (·.get? v)
      = (lastValue (k, v) t.triples).or ((m.get? k).bind (·.get? v)) := by
  rw [KeyForm.put, get?_insert, lastValue_triples]
  by_cases hk : t.key.text = k
  · subst hk
    rw [if_pos rfl, if_pos rfl, Option.bind_some, foldl_put_value, get?_foldl_insert]
    cases m.get? t.key.text <;> rfl
  · rw [if_neg hk, if_neg hk, Option.none_or]

/-- After keys are put in one after another, the keys are those put in and those
that were there. -/
lemma isSome_get?_foldl_put (l : List KeyForm) (m : AttributeMap) (k : String) :
    ((l.foldl KeyForm.put m).get? k).isSome ↔ (∃ t ∈ l, t.key.text = k) ∨ (m.get? k).isSome := by
  induction l generalizing m with
  | nil => simp
  | cons t l ih =>
    rw [List.foldl_cons, ih, isSome_get?_put]
    simp only [List.mem_cons, exists_eq_or_imp]
    rw [or_left_comm, or_assoc]

/-- After keys are put in one after another, a value under a key has the last user
given for the two. -/
lemma get?_get?_foldl_put (l : List KeyForm) (m : AttributeMap) (k v : String) :
    ((l.foldl KeyForm.put m).get? k).bind (·.get? v)
      = (lastValue (k, v) (l.flatMap KeyForm.triples)).or ((m.get? k).bind (·.get? v)) := by
  induction l generalizing m with
  | nil => rfl
  | cons t l ih =>
    rw [List.foldl_cons, ih, get?_get?_put, List.flatMap_cons, lastValue_append, Option.or_assoc]

/-- A key is there exactly if it is written. -/
lemma isSome_get?_attributeMap (f : Counted KeyForm) (k : String) :
    ((RecordForm.attributeMap f).get? k).isSome ↔ ∃ t ∈ f.items, t.key.text = k := by
  rw [RecordForm.attributeMap, isSome_get?_foldl_put]
  simp

/-- A value under a key has the last user given for the two. -/
lemma get?_get?_attributeMap (f : Counted KeyForm) (k v : String) :
    ((RecordForm.attributeMap f).get? k).bind (·.get? v)
      = lastValue (k, v) (f.items.flatMap KeyForm.triples) := by
  rw [RecordForm.attributeMap, get?_get?_foldl_put, get?_empty, Option.bind_none, Option.or_none]

/-- An attribute map is determined by its keys and by the users of the values under
them. -/
lemma attributeMap_ext {m n : AttributeMap} (hk : ∀ k, (m.get? k).isSome ↔ (n.get? k).isSome)
    (hv : ∀ k v, (m.get? k).bind (·.get? v) = (n.get? k).bind (·.get? v)) : m = n := by
  refine OrderedMap.ext_get? fun k => ?_
  have hk := hk k
  have hv := hv k
  cases hm : m.get? k with
  | none =>
    rw [hm] at hk
    exact (Option.not_isSome_iff_eq_none.1 fun h => by simpa using hk.2 h).symm
  | some vs =>
    rw [hm] at hk hv
    obtain ⟨vs', hn⟩ := Option.isSome_iff_exists.1 (hk.1 rfl)
    rw [hn] at hv
    rw [hn, OrderedMap.ext_get? hv]

/-! ### Records -/

/-- A record that says what a form tells: the id and the hash that are written; of
the tags the last user for each; a key for each key that is written, and under a
key the last user for each value. -/
structure RecordForm.Tells (t : RecordForm) (r : ImageRecord) : Prop where
  id : r.id = t.id
  hash : r.hash = t.hash
  tags : r.tags.isSome = t.tags.isSome
  tag : ∀ f ∈ t.tags, ∀ m ∈ r.tags, ∀ k, m.get? k = lastValue k (f.items.map TagForm.entry)
  attributes : r.attributes.isSome = t.attributes.isSome
  key : ∀ f ∈ t.attributes, ∀ m ∈ r.attributes, ∀ k,
    (m.get? k).isSome ↔ ∃ i ∈ f.items, i.key.text = k
  value : ∀ f ∈ t.attributes, ∀ m ∈ r.attributes, ∀ k v,
    (m.get? k).bind (·.get? v) = lastValue (k, v) (f.items.flatMap KeyForm.triples)

/-- The folded record says what the form tells. -/
lemma tells_record (t : RecordForm) : t.Tells t.record where
  id := rfl
  hash := rfl
  tags := Option.isSome_map
  tag := by
    rintro f hf m hm k
    rw [RecordForm.record, Option.mem_def.1 hf] at hm
    obtain rfl : RecordForm.tagMap f = m := Option.some.inj hm
    exact get?_tagMap f k
  attributes := Option.isSome_map
  key := by
    rintro f hf m hm k
    rw [RecordForm.record, Option.mem_def.1 hf] at hm
    obtain rfl : RecordForm.attributeMap f = m := Option.some.inj hm
    exact isSome_get?_attributeMap f k
  value := by
    rintro f hf m hm k v
    rw [RecordForm.record, Option.mem_def.1 hf] at hm
    obtain rfl : RecordForm.attributeMap f = m := Option.some.inj hm
    exact get?_get?_attributeMap f k v

/-- Two options of which both or neither is there are equal if their contents
are. -/
lemma option_eq_of_isSome {α : Type} {o p : Option α} (h : o.isSome = p.isSome)
    (heq : ∀ a ∈ o, ∀ b ∈ p, a = b) : o = p := by
  cases o with
  | none =>
    have hp : p = none := by simpa using h
    exact hp.symm
  | some a =>
    cases p with
    | none => simp at h
    | some b => rw [heq a rfl b rfl]

/-- What a form tells is one record, the folded one. -/
lemma tells_iff_eq_record {t : RecordForm} {r : ImageRecord} : t.Tells r ↔ r = t.record := by
  constructor
  · intro h
    have h' := tells_record t
    obtain ⟨id, hash, tags, attributes⟩ := r
    have htags : tags = t.record.tags := by
      refine option_eq_of_isSome (h.tags.trans h'.tags.symm) fun m hm n hn => ?_
      obtain ⟨f, hf⟩ := Option.isSome_iff_exists.1 (h.tags ▸ Option.isSome_of_mem hm)
      exact OrderedMap.ext_get? fun k => (h.tag f hf m hm k).trans (h'.tag f hf n hn k).symm
    have hattributes : attributes = t.record.attributes := by
      refine option_eq_of_isSome (h.attributes.trans h'.attributes.symm) fun m hm n hn => ?_
      obtain ⟨f, hf⟩ := Option.isSome_iff_exists.1 (h.attributes ▸ Option.isSome_of_mem hm)
      exact attributeMap_ext (fun k => (h.key f hf m hm k).trans (h'.key f hf n hn k).symm)
        fun k v => (h.value f hf m hm k v).trans (h'.value f hf n hn k v).symm
    rw [ImageRecord.mk.injEq]
    exact ⟨h.id, h.hash, htags, hattributes⟩
  · rintro rfl
    exact tells_record t

end TagCatalog.Wire
