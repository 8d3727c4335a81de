import Mathlib.Tactic
import TagCatalog.Wire.Record

/-!
The grammar of flat payloads, as syntax.

A form keeps all that the bytes say: which of its four forms a number has, every
pair of a map with its repetitions, the order of the pairs. The meaning of a form
is what a reader makes of it.

* `Numeral`, `TextForm`, `TagForm`, `ValueForm`, `KeyForm`, `RecordForm`: the
  syntax, with `bytes` for each; `Counted` is a number of forms with that number
  in front.
* `TagForm.put`, `ValueForm.put`, `KeyForm.put`: what an entry does to the map
  read so far; `RecordForm.record` is the record that a form tells, its maps
  folded from the front.
* `SelfDelimiting`: forms that end where they say, so that no text can be cut
  into them in two ways; `RecordForm.selfDelimiting` is the statement for records
  of given fields, `SelfDelimiting.eq_of_flatMap_eq` the one for a whole payload.
-/

namespace TagCatalog.Wire

variable {τ υ σ : Type}

/-! ### Forms that end where they say -/

/-- Whatever follows a form, the form is determined by the bytes, and so is what
follows it. -/
def SelfDelimiting (bytes : τ → Bytes) : Prop :=
  ∀ s t v w, bytes s ++ v = bytes t ++ w → s = t ∧ v = w

namespace SelfDelimiting

variable {bytes : τ → Bytes} {bytes' : υ → Bytes}

/-- Forms of one width, told apart by their bytes. -/
lemma of_length {n : Nat} (hn : ∀ t, (bytes t).length = n) (h : Function.Injective bytes) :
    SelfDelimiting bytes := by
  intro s t v w e
  obtain ⟨hst, hvw⟩ := List.append_inj e (by rw [hn, hn])
  exact ⟨h hst, hvw⟩

/-- One form after another. -/
lemma pair (h : SelfDelimiting bytes) (h' : SelfDelimiting bytes') :
    SelfDelimiting fun p : τ × υ => bytes p.1 ++ bytes' p.2 := by
  rintro ⟨s, s'⟩ ⟨t, t'⟩ v w e
  simp only [List.append_assoc] at e
  obtain ⟨rfl, e'⟩ := h _ _ _ _ e
  obtain ⟨rfl, rfl⟩ := h' _ _ _ _ e'
  exact ⟨rfl, rfl⟩

/-- Forms may be named otherwise as long as no two share a name. -/
lemma reindex (h : SelfDelimiting bytes) {g : σ → τ} (hg : Function.Injective g) :
    SelfDelimiting (bytes ∘ g) := by
  intro s t v w e
  obtain ⟨hst, hvw⟩ := h _ _ _ _ e
  exact ⟨hg hst, hvw⟩

/-- A form that is there or not, as is known beforehand. -/
lemma option (h : SelfDelimiting bytes) (wanted : Bool) :
    SelfDelimiting fun o : { o : Option τ // o.isSome = wanted } => o.1.elim [] bytes := by
  rintro ⟨s, hs⟩ ⟨t, ht⟩ v w e
  cases s with
  | none =>
    cases t with
    | none => exact ⟨rfl, e⟩
    | some t => simp [← hs] at ht
  | some s =>
    cases t with
    | none => simp [← hs] at ht
    | some t =>
      obtain ⟨rfl, rfl⟩ := h _ _ _ _ e
      exact ⟨rfl, rfl⟩

/-- As many forms as are known beforehand. -/
lemma list (h : SelfDelimiting bytes) {l l' : List τ} {v w : Bytes}
    (hl : l.length = l'.length) (e : l.flatMap bytes ++ v = l'.flatMap bytes ++ w) :
    l = l' ∧ v = w := by
  induction l generalizing l' with
  | nil =>
    obtain rfl := List.length_eq_zero_iff.1 hl.symm
    exact ⟨rfl, e⟩
  | cons t l ih =>
    obtain ⟨t', l', rfl⟩ := List.exists_cons_of_length_eq_add_one hl.symm
    simp only [List.flatMap_cons, List.append_assoc] at e
    obtain ⟨rfl, e'⟩ := h _ _ _ _ e
    obtain ⟨rfl, rfl⟩ := ih (Nat.succ.inj hl) e'
    exact ⟨rfl, rfl⟩

/-- Forms up to the end of the bytes: there is one way at most to cut a text
into forms, none of which is empty. -/
lemma eq_of_flatMap_eq (h : SelfDelimiting bytes) (hne : ∀ t, bytes t ≠ []) {l l' : List τ}
    (e : l.flatMap bytes = l'.flatMap bytes) : l = l' := by
  induction l generalizing l' with
  | nil =>
    cases l' with
    | nil => rfl
    | cons t l' => exact absurd (List.append_eq_nil_iff.1 e.symm).1 (hne t)
  | cons t l ih =>
    cases l' with
    | nil => exact absurd (List.append_eq_nil_iff.1 e).1 (hne t)
    | cons t' l' =>
      obtain ⟨rfl, e'⟩ := h _ _ _ _ e
      rw [ih e']

end SelfDelimiting

/-! ### Numbers -/

/-- The forms of a number: a byte of its own, or a marker in front of two, four
or eight bytes. -/
inductive NumeralForm
  | own
  | two
  | four
  | eight
  deriving DecidableEq

namespace NumeralForm

/-- The number of bytes after the first. -/
def width : NumeralForm → Nat
  | own => 0
  | two => 2
  | four => 4
  | eight => 8

/-- The numbers below this have the form; the bytes from the first marker on are
no numbers of their own. -/
def bound : NumeralForm → Nat
  | own => 0xFD
  | two => UInt16.size
  | four => UInt32.size
  | eight => UInt64.size

/-- The first byte. -/
def lead (n : UInt64) : NumeralForm → UInt8
  | own => n.toUInt8
  | two => 0xFD
  | four => 0xFE
  | eight => 0xFF

/-- The bytes of a form have room for the numbers of the form and no others. -/
lemma byteCapacity_width {f : NumeralForm} (hf : f ≠ .own) : byteCapacity f.width = f.bound := by
  cases f
  · exact absurd rfl hf
  all_goals rfl

end NumeralForm

/-- A number as written, in any form that holds it. -/
@[ext] structure Numeral where
  /-- Its form. -/
  form : NumeralForm
  /-- Its value. -/
  value : UInt64
  /-- The form holds the value. -/
  fits : value.toNat < form.bound

namespace Numeral

/-- The bytes of a number. -/
def bytes (t : Numeral) : Bytes :=
  t.form.lead t.value :: LittleEndian.encode t.form.width t.value.toNat

/-- A number takes a byte more than its form is wide. -/
@[simp] lemma length_bytes (t : Numeral) : t.bytes.length = t.form.width + 1 := by
  simp [bytes]

/-- A number of its own is its first byte. -/
lemma toNat_lead_own {n : UInt64} (h : n.toNat < 0xFD) :
    (NumeralForm.own.lead n).toNat = n.toNat := by
  change n.toUInt8.toNat = n.toNat
  rw [UInt64.toNat_toUInt8]
  omega

/-- A number is a byte of its own exactly if its first byte is no marker. -/
lemma toNat_lead_lt_iff {t : Numeral} :
    (t.form.lead t.value).toNat < 0xFD ↔ t.form = .own := by
  obtain ⟨f, n, hn⟩ := t
  cases f
  case own =>
    have hlead := toNat_lead_own hn
    refine iff_of_true ?_ rfl
    change (NumeralForm.own.lead n).toNat < 0xFD
    rw [hlead]
    exact hn
  all_goals simp [NumeralForm.lead]

/-- The first byte tells the form. -/
lemma form_eq_of_lead_eq {s t : Numeral} (h : s.form.lead s.value = t.form.lead t.value) :
    s.form = t.form := by
  by_cases hs : s.form = .own
  · have ht := toNat_lead_lt_iff.2 hs
    rw [h] at ht
    rw [hs, toNat_lead_lt_iff.1 ht]
  · have ht : t.form ≠ .own := fun ht => hs (toNat_lead_lt_iff.1 (h ▸ toNat_lead_lt_iff.2 ht))
    -- the three markers differ
    cases hf : s.form <;> cases hg : t.form <;> simp_all [NumeralForm.lead]

/-- Numbers end where they say. -/
lemma selfDelimiting : SelfDelimiting bytes := by
  intro s t v w e
  obtain ⟨hlead, e⟩ := List.cons.inj e
  have hform := form_eq_of_lead_eq hlead
  obtain ⟨f, n, hn⟩ := s
  obtain ⟨g, m, hm⟩ := t
  obtain rfl : f = g := hform
  obtain ⟨hdigits, rfl⟩ := List.append_inj e (by simp)
  have hnm : n.toNat = m.toNat := by
    by_cases hf : f = .own
    · subst hf
      rw [← toNat_lead_own hn, ← toNat_lead_own hm, hlead]
    · have := congrArg LittleEndian.decode hdigits
      rwa [LittleEndian.decode_encode (NumeralForm.byteCapacity_width hf ▸ hn),
        LittleEndian.decode_encode (NumeralForm.byteCapacity_width hf ▸ hm)] at this
  obtain rfl := UInt64.toNat_inj.1 hnm
  exact ⟨rfl, rfl⟩

end Numeral

/-! ### Texts and counted forms -/

/-- A text as written: the number of its bytes and the bytes, not more than a
text may have. -/
@[ext] structure TextForm where
  /-- The number of bytes. -/
  length : Numeral
  /-- The text. -/
  text : String
  /-- The number tells how many bytes the text has. -/
  length_eq : length.value.toNat = (Utf8.encode text).length
  /-- There are not too many of them. -/
  short : (Utf8.encode text).length ≤ maxStringLength

namespace TextForm

/-- The bytes of a text. -/
def bytes (t : TextForm) : Bytes := t.length.bytes ++ Utf8.encode t.text

/-- Texts are told apart by their bytes. -/
lemma encode_injective : Function.Injective Utf8.encode := by
  intro s t h
  have := Utf8.decode?_encode t
  rw [← h, Utf8.decode?_encode] at this
  exact Option.some.inj this

/-- Texts end where they say. -/
lemma selfDelimiting : SelfDelimiting bytes := by
  intro s t v w e
  simp only [bytes, List.append_assoc] at e
  obtain ⟨hlength, e⟩ := Numeral.selfDelimiting _ _ _ _ e
  have hlen : (Utf8.encode s.text).length = (Utf8.encode t.text).length := by
    rw [← s.length_eq, ← t.length_eq, hlength]
  obtain ⟨htext, rfl⟩ := List.append_inj e hlen
  exact ⟨TextForm.ext hlength (encode_injective htext), rfl⟩

end TextForm

/-- Forms with their number in front. -/
@[ext] structure Counted (τ : Type) where
  /-- The number of forms. -/
  count : Numeral
  /-- The forms. -/
  items : List τ
  /-- The number tells how many there are. -/
  count_eq : count.value.toNat = items.length

namespace Counted

/-- The bytes of counted forms. -/
def bytes (bytes : τ → Bytes) (t : Counted τ) : Bytes := t.count.bytes ++ t.items.flatMap bytes

/-- Counted forms end where they say if each of them does. -/
lemma selfDelimiting {b : τ → Bytes} (h : SelfDelimiting b) : SelfDelimiting (bytes b) := by
  intro s t v w e
  simp only [bytes, List.append_assoc] at e
  obtain ⟨hcount, e⟩ := Numeral.selfDelimiting _ _ _ _ e
  obtain ⟨hitems, rfl⟩ := h.list (by rw [← s.count_eq, ← t.count_eq, hcount]) e
  exact ⟨Counted.ext hcount hitems, rfl⟩

end Counted

/-- Entries of so many bytes each have together as many times that. -/
lemma length_mul_le_flatMap {b : τ → Bytes} {n : Nat} (h : ∀ t, n ≤ (b t).length) (l : List τ) :
    l.length * n ≤ (l.flatMap b).length := by
  induction l with
  | nil => simp
  | cons t l ih =>
    have ht := h t
    rw [List.length_cons, List.flatMap_cons, List.length_append, Nat.succ_mul]
    omega

/-! ### Entries of maps -/

/-- A tag and its user. -/
@[ext] structure TagForm where
  tag : Numeral
  user : Numeral

/-- An attribute value and its user. -/
@[ext] structure ValueForm where
  value : TextForm
  user : Numeral

/-- An attribute key and its values. -/
@[ext] structure KeyForm where
  key : TextForm
  values : Counted ValueForm

namespace TagForm

/-- The bytes of a tag with its user. -/
def bytes (t : TagForm) : Bytes := t.tag.bytes ++ t.user.bytes

/-- The tag and the user that are meant. -/
def entry (t : TagForm) : TagId × UserId := (t.tag.value, t.user.value)

/-- The map after one more tag; a user that the tag had before is forgotten. -/
def put (m : TagMap) (t : TagForm) : TagMap := m.insert t.tag.value t.user.value

/-- Tags with their users end where they say. -/
lemma selfDelimiting : SelfDelimiting bytes :=
  (Numeral.selfDelimiting.pair Numeral.selfDelimiting).reindex
    (g := fun t : TagForm => (t.tag, t.user))
    fun _ _ h => TagForm.ext (congrArg Prod.fst h) (congrArg Prod.snd h)

/-- A tag with its user has a byte at least for each of the two. -/
lemma leastEntry_le (t : TagForm) : leastEntry ≤ t.bytes.length := by
  rw [bytes, List.length_append, Numeral.length_bytes, Numeral.length_bytes, leastEntry]
  omega

end TagForm

namespace ValueForm

/-- The bytes of a value with its user. -/
def bytes (t : ValueForm) : Bytes := t.value.bytes ++ t.user.bytes

/-- The value and the user that are meant. -/
def entry (t : ValueForm) : String × UserId := (t.value.text, t.user.value)

/-- The map after one more value; a user that the value had before is
forgotten. -/
def put (m : OrderedMap String UserId) (t : ValueForm) : OrderedMap String UserId :=
  m.insert t.value.text t.user.value

/-- Values with their users end where they say. -/
lemma selfDelimiting : SelfDelimiting bytes :=
  (TextForm.selfDelimiting.pair Numeral.selfDelimiting).reindex
    (g := fun t : ValueForm => (t.value, t.user))
    fun _ _ h => ValueForm.ext (congrArg Prod.fst h) (congrArg Prod.snd h)

/-- A value with its user has a byte at least for each of the two. -/
lemma leastEntry_le (t : ValueForm) : leastEntry ≤ t.bytes.length := by
  rw [bytes, TextForm.bytes, List.length_append, List.length_append, Numeral.length_bytes,
    Numeral.length_bytes, leastEntry]
  omega

end ValueForm

namespace KeyForm

/-- The bytes of a key with its values. -/
def bytes (t : KeyForm) : Bytes := t.key.bytes ++ t.values.bytes ValueForm.bytes

/-- The map after one more key: its values join those that the key had
before. -/
def put (m : AttributeMap) (t : KeyForm) : AttributeMap :=
  m.insert t.key.text (t.values.items.foldl ValueForm.put ((m.get? t.key.text).getD ∅))

/-- The values of a key, each with the key in front. -/
def triples (t : KeyForm) : List ((String × String) × UserId) :=
  t.values.items.map fun v => ((t.key.text, v.value.text), v.user.value)

/-- Keys with their values end where they say. -/
lemma selfDelimiting : SelfDelimiting bytes :=
  (TextForm.selfDelimiting.pair (Counted.selfDelimiting ValueForm.selfDelimiting)).reindex
    (g := fun t : KeyForm => (t.key, t.values))
    fun _ _ h => KeyForm.ext (congrArg Prod.fst h) (congrArg Prod.snd h)

/-- A key with its values has a byte at least for each of the two. -/
lemma leastEntry_le (t : KeyForm) : leastEntry ≤ t.bytes.length := by
  rw [bytes, TextForm.bytes, Counted.bytes, List.length_append, List.length_append,
    List.length_append, Numeral.length_bytes, Numeral.length_bytes, leastEntry]
  omega

end KeyForm

/-! ### Records -/

/-- A record as written: some of the four fields. -/
@[ext] structure RecordForm where
  id : Option UInt32
  hash : Option ImageHash
  tags : Option (Counted TagForm)
  attributes : Option (Counted KeyForm)

namespace RecordForm

/-- The fields that are written. -/
def fields (t : RecordForm) : FieldSet :=
  ⟨t.id.isSome, t.hash.isSome, t.tags.isSome, t.attributes.isSome⟩

/-- The bytes of a record: its fields one after another. -/
def bytes (t : RecordForm) : Bytes :=
  t.id.elim [] FieldList.encodeId ++ (t.hash.elim [] ImageHash.bytes ++
    (t.tags.elim [] (Counted.bytes TagForm.bytes) ++
      t.attributes.elim [] (Counted.bytes KeyForm.bytes)))

/-- The tag map that tags tell. -/
def tagMap (t : Counted TagForm) : TagMap := t.items.foldl TagForm.put ∅

/-- The attribute map that keys tell. -/
def attributeMap (t : Counted KeyForm) : AttributeMap := t.items.foldl KeyForm.put ∅

/-- The record that is meant. -/
def record (t : RecordForm) : ImageRecord :=
  ⟨t.id, t.hash, t.tags.map tagMap, t.attributes.map attributeMap⟩

/-- The records of given fields. -/
abbrev Of (fields : FieldSet) := { t : RecordForm // t.fields = fields }

/-- The fields of a record, each there or not as is given. -/
def parts {fields : FieldSet} (t : Of fields) :
    { o : Option UInt32 // o.isSome = fields.ids } ×
      { o : Option ImageHash // o.isSome = fields.hashes } ×
      { o : Option (Counted TagForm) // o.isSome = fields.tags } ×
      { o : Option (Counted KeyForm) // o.isSome = fields.attributes } :=
  (⟨t.1.id, congrArg FieldSet.ids t.2⟩, ⟨t.1.hash, congrArg FieldSet.hashes t.2⟩,
    ⟨t.1.tags, congrArg FieldSet.tags t.2⟩, ⟨t.1.attributes, congrArg FieldSet.attributes t.2⟩)

/-- A record is its fields, in any choice. -/
lemma parts_bijective {fields : FieldSet} : Function.Bijective (@parts fields) := by
  constructor
  · rintro ⟨s, hs⟩ ⟨t, ht⟩ h
    simp only [parts, Prod.mk.injEq, Subtype.ext_iff] at h
    exact Subtype.ext (RecordForm.ext h.1 h.2.1 h.2.2.1 h.2.2.2)
  · rintro ⟨⟨id, hi⟩, ⟨hash, hh⟩, ⟨tags, ht⟩, ⟨attributes, ha⟩⟩
    refine ⟨⟨⟨id, hash, tags, attributes⟩, ?_⟩, rfl⟩
    rw [RecordForm.fields, hi, hh, ht, ha]

/-- An id is written in bytes of its own. -/
lemma encodeId_injective : Function.Injective FieldList.encodeId := by
  intro m n h
  have hm : m.toNat < byteCapacity FieldList.idWidth := m.toNat_lt
  have hn : n.toNat < byteCapacity FieldList.idWidth := n.toNat_lt
  have := congrArg LittleEndian.decode h
  rw [FieldList.encodeId, FieldList.encodeId, LittleEndian.decode_encode hm,
    LittleEndian.decode_encode hn] at this
  exact UInt32.toNat_inj.1 this

/-- Records of given fields end where they say. -/
lemma selfDelimiting (fields : FieldSet) :
    SelfDelimiting fun t : Of fields => t.1.bytes := by
  have hid : SelfDelimiting FieldList.encodeId :=
    .of_length (fun id => LittleEndian.length_encode _ id.toNat) encodeId_injective
  have hhash : SelfDelimiting ImageHash.bytes :=
    .of_length ImageHash.length_bytes fun _ _ h => ImageHash.ext h
  have htags := Counted.selfDelimiting TagForm.selfDelimiting
  have hattributes := Counted.selfDelimiting KeyForm.selfDelimiting
  exact ((hid.option fields.ids).pair ((hhash.option fields.hashes).pair
    ((htags.option fields.tags).pair (hattributes.option fields.attributes)))).reindex
      parts_bijective.injective

end RecordForm

end TagCatalog.Wire
