import TagCatalog.Wire.FieldList
import TagCatalog.Wire.FieldSet
import TagCatalog.Wire.Vli

/-!
Payloads of records: one record after another until the bytes end.

* `encodeRecord`, `Read.record`: the selected fields in the order id, hash, tags, attributes.
* `RecordStream`: the records of a payload, one at a time; an error ends them.
* `decodeRecords`: all records of a payload, or the first error.
* `Read.consumes_record`: a record with a selected field takes at least one byte, so a payload has
  no more records than bytes.
-/

namespace TagCatalog.Wire

/-! ### Reading -/

/-- The fewest bytes of a tag, of an attribute key with its values, and of an attribute value: two
numbers or texts of one byte each. -/
def leastEntry : Nat := 2

namespace Read

/-- A reader that runs only if wanted. -/
def when {α : Type} (wanted : Bool) (r : Read α) : Read (Option α) :=
  if wanted then some <$> r else pure none

/-- The next 32 bytes, as a hash. -/
def hash : Read ImageHash := fun c =>
  if h : 32 ≤ c.rest.length then (.ok ⟨c.rest.take 32, by simp [h]⟩, c.advance 32)
  else (.error (.truncated c.offset 32 c.remaining), c)

/-- So many tags, put into a map; of two entries for a tag the later counts. -/
def tagEntries : Nat → TagMap → Read TagMap
  | 0, tags => pure tags
  | n + 1, tags => do
    let tag ← vli
    let user ← vli
    tagEntries n (tags.insert tag user)

/-- A tag map with its count in front. -/
def tags : Read TagMap := do
  let n ← count leastEntry
  tagEntries n ∅

/-- So many attribute values, put into a map; of two entries for a value the later counts. -/
def valueEntries : Nat → OrderedMap String UserId → Read (OrderedMap String UserId)
  | 0, values => pure values
  | n + 1, values => do
    let value ← string
    let user ← vli
    valueEntries n (values.insert value user)

/-- So many attribute keys with their values; the values of a repeated key are put together. -/
def keyEntries : Nat → AttributeMap → Read AttributeMap
  | 0, attributes => pure attributes
  | n + 1, attributes => do
    let key ← string
    let values ← count leastEntry
    let values ← valueEntries values ((attributes.get? key).getD ∅)
    keyEntries n (attributes.insert key values)

/-- An attribute map with its count in front. -/
def attributes : Read AttributeMap := do
  let n ← count leastEntry
  keyEntries n ∅

/-- The selected fields of a record. -/
def record (fields : FieldSet) : Read ImageRecord := do
  let id ← when fields.ids (UInt32.ofNat <$> uint FieldList.idWidth)
  let hash ← when fields.hashes hash
  let tags ← when fields.tags tags
  let attributes ← when fields.attributes attributes
  return ⟨id, hash, tags, attributes⟩

/-! ### Progress -/

/-- Reading a hash gives no bytes back. -/
theorem advances_hash : Advances hash := fun c => by
  rw [hash]
  split
  next h => exact ⟨32, h, rfl⟩
  next => exact ⟨0, Nat.zero_le _, rfl⟩

/-- A hash that is answered has been read. -/
theorem consumes_hash : Consumes hash := fun c a c' h => by
  rw [hash] at h
  split at h
  next hl =>
    cases h
    rw [Cursor.remaining_advance]
    simp only [Cursor.remaining] at *
    omega
  next => cases h

/-- Reading the entries of tags gives no bytes back. -/
theorem advances_tagEntries (n : Nat) (m : TagMap) : Advances (tagEntries n m) := by
  induction n generalizing m with
  | zero => exact advances_pure m
  | succ n ih => exact advances_vli.bind fun _ => advances_vli.bind fun _ => ih _

/-- Reading the values of a key gives no bytes back. -/
theorem advances_valueEntries (n : Nat) (m : OrderedMap String UserId) :
    Advances (valueEntries n m) := by
  induction n generalizing m with
  | zero => exact advances_pure m
  | succ n ih => exact advances_string.bind fun _ => advances_vli.bind fun _ => ih _

/-- Reading keys with their values gives no bytes back. -/
theorem advances_keyEntries (n : Nat) (m : AttributeMap) : Advances (keyEntries n m) := by
  induction n generalizing m with
  | zero => exact advances_pure m
  | succ n ih =>
    exact advances_string.bind fun _ => (advances_count _).bind fun _ =>
      (advances_valueEntries _ _).bind fun _ => ih _

/-- Reading tags gives no bytes back. -/
theorem advances_tags : Advances tags :=
  (advances_count _).bind fun _ => advances_tagEntries _ _

/-- Tags take the bytes of their count at least. -/
theorem consumes_tags : Consumes tags :=
  (consumes_count _).bind fun _ => advances_tagEntries _ _

/-- Reading attributes gives no bytes back. -/
theorem advances_attributes : Advances attributes :=
  (advances_count _).bind fun _ => advances_keyEntries _ _

/-- Attributes take the bytes of their count at least. -/
theorem consumes_attributes : Consumes attributes :=
  (consumes_count _).bind fun _ => advances_keyEntries _ _

/-- A field that is not wanted is not read. -/
theorem Advances.when {α : Type} {r : Read α} (hr : Advances r) (wanted : Bool) :
    Advances (when wanted r) := by
  cases wanted
  · exact advances_pure none
  · exact hr.map some

/-- A field that is wanted is read. -/
theorem Consumes.when {α : Type} {r : Read α} (hr : Consumes r) : Consumes (when true r) :=
  hr.map some

/-- Reading an id gives no bytes back. -/
theorem advances_id : Advances (UInt32.ofNat <$> uint FieldList.idWidth : Read UInt32) :=
  (advances_uint _).map _

/-- An id that is answered has been read. -/
theorem consumes_id : Consumes (UInt32.ofNat <$> uint FieldList.idWidth : Read UInt32) :=
  ((consumes_take (by decide)).map _).map _

/-- A record with a selected field takes at least one byte. -/
theorem consumes_record {fields : FieldSet} (h : fields ≠ .none) : Consumes (record fields) := by
  obtain ⟨ids, hashes, tags, attributes⟩ := fields
  have last (f : Option AttributeMap → ImageRecord) (b : Bool) :
      Advances (Read.when b Read.attributes >>= fun a => pure (f a)) :=
    (advances_attributes.when b).bind fun _ => advances_pure _
  cases ids
  · refine (advances_id.when false).bind_consumes fun _ => ?_
    cases hashes
    · refine (advances_hash.when false).bind_consumes fun _ => ?_
      cases tags
      · refine (advances_tags.when false).bind_consumes fun _ => ?_
        cases attributes
        · exact absurd rfl h
        · exact consumes_attributes.when.bind fun _ => advances_pure _
      · exact consumes_tags.when.bind fun _ => last _ attributes
    · exact consumes_hash.when.bind fun _ =>
        (advances_tags.when tags).bind fun _ => last _ attributes
  · exact consumes_id.when.bind fun _ => (advances_hash.when hashes).bind fun _ =>
      (advances_tags.when tags).bind fun _ => last _ attributes

end Read

/-! ### Streams -/

/-- The records of a payload that are still to come. -/
structure RecordStream where
  /-- The fields of every record. -/
  fields : FieldSet
  /-- Where the next record begins. -/
  cursor : Cursor
  /-- Whether an error has ended the records. -/
  failed : Bool
  deriving Repr, DecidableEq

namespace RecordStream

/-- All records of a payload. -/
def ofPayload (fields : FieldSet) (payload : Bytes) : RecordStream :=
  ⟨fields, ⟨payload, headerLength⟩, false⟩

/-- The number of bytes not yet read. -/
def remaining (s : RecordStream) : Nat := s.cursor.remaining

/-- The next record or the error in its place, unless there is none, and what comes after it. Bytes
of which no field is selected are an error. -/
def next (s : RecordStream) : Option (Except DecodeError ImageRecord) × RecordStream :=
  if s.failed || s.cursor.rest.isEmpty then (none, s)
  else if s.fields = .none then
    (some (.error (.malformed s.cursor.offset (.noFields s.remaining))), { s with failed := true })
  else match Read.record s.fields s.cursor with
    | (.ok r, c) => (some (.ok r), { s with cursor := c })
    | (.error e, c) => (some (.error e), { s with cursor := c, failed := true })

/-- Each record takes a byte at least, so the records of a payload come to an end. -/
theorem remaining_lt_of_next {s t : RecordStream} {r : ImageRecord}
    (h : s.next = (some (.ok r), t)) : t.remaining < s.remaining := by
  rw [next] at h
  split at h
  · cases h
  · split at h
    · cases h
    · next hf =>
      split at h
      next c e =>
        cases h
        exact Read.consumes_record hf _ _ _ e
      next => cases h

/-- The records up to the end, after those of `done`, which is reversed; or the first error. -/
def collect (done : List ImageRecord) (s : RecordStream) : Except DecodeError (List ImageRecord) :=
  match _h : s.next with
  | (none, _) => .ok done.reverse
  | (some (.error e), _) => .error e
  | (some (.ok r), t) => collect (r :: done) t
termination_by s.remaining
decreasing_by exact remaining_lt_of_next (by assumption)

end RecordStream

/-- All records of a payload, or the first error. -/
def decodeRecords (fields : FieldSet) (payload : Bytes) : Except DecodeError (List ImageRecord) :=
  (RecordStream.ofPayload fields payload).collect []

/-! ### Writing -/

/-- A tag and its user. -/
def encodeTag (e : TagId × UserId) : Bytes := Vli.encode e.1 ++ Vli.encode e.2

/-- A tag map with its count in front. -/
def encodeTags (tags : TagMap) : Bytes :=
  encodeCount tags.size ++ tags.entries.flatMap encodeTag

/-- An attribute value and its user. -/
def encodeValue (e : String × UserId) : Bytes := encodeString e.1 ++ Vli.encode e.2

/-- An attribute key and its values. -/
def encodeKey (e : String × OrderedMap String UserId) : Bytes :=
  encodeString e.1 ++ encodeCount e.2.size ++ e.2.entries.flatMap encodeValue

/-- An attribute map with its count in front. -/
def encodeAttributes (attributes : AttributeMap) : Bytes :=
  encodeCount attributes.size ++ attributes.entries.flatMap encodeKey

/-- The selected fields of a record; one that it lacks is written as zero or empty. -/
def encodeRecord (fields : FieldSet) (r : ImageRecord) : Bytes :=
  (if fields.ids then FieldList.encodeId (r.id.getD 0) else []) ++
    (if fields.hashes then (r.hash.getD .zero).bytes else []) ++
    (if fields.tags then encodeTags (r.tags.getD ∅) else []) ++
    (if fields.attributes then encodeAttributes (r.attributes.getD ∅) else [])

/-- The selected fields of each record. -/
def encodeRecords (fields : FieldSet) (records : List ImageRecord) : Bytes :=
  records.flatMap (encodeRecord fields)

end TagCatalog.Wire
