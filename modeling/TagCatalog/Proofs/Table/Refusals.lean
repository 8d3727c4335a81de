import Mathlib.Tactic
import TagCatalog.Proofs.Table.Naming
import TagCatalog.Table.Response

/-!
Results that cannot be written as a table.

A table has names for tags and 32 bits for users, and the first entry of a result that
lacks the one or does not fit the other ends the writing. Which entry comes first is
told by the entries alone: images are written one after another, the tags of each before
its attributes, and both in the order of their maps.

* `RecordEntry`, `RecordEntry.fault?`: a tag or an attribute value, and what is wrong with
  it; `RecordEntry.Before` is the order in which those of a record are written.
* `ImageRecord.written`, `SearchResult.written`: the entries in this order;
  `ImageRecord.pairwise_written`.
* `failure?`: how steps fail, one after another and along lists; `failure?_ofResult` is the
  first fault of a result.
* `encodeResponse_refuses_exactly`: which results are refused, and for what.
-/

namespace TagCatalog

/-! ### Entries -/

/-- What is written of a record apart from its id and its hash: a tag, or a value of an
attribute. -/
inductive RecordEntry
  | tag (id : TagId) (user : UserId)
  | value (key text : String) (user : UserId)
  deriving DecidableEq

namespace RecordEntry

/-- Tags stand before values; tags stand by their ids, values by their keys and then by
their texts. -/
def Before : RecordEntry → RecordEntry → Prop
  | tag id _, tag id' _ => id < id'
  | tag _ _, value _ _ _ => True
  | value _ _ _, tag _ _ => False
  | value key text _, value key' text' _ => key < key' ∨ key = key' ∧ text < text'

/-- What is wrong with an entry: the name of a tag is missed before its user is looked
at. -/
def fault? (d : TagDictionary) : RecordEntry → Option Wire.PayloadFault
  | tag id user =>
    if d.name? id = none then some (.unnamedTag id)
    else if user.toNat < UInt32.size then none else some (.wideUser .tag user)
  | value _ _ user => if user.toNat < UInt32.size then none else some (.wideUser .attribute user)

variable {d : TagDictionary}

/-- Nothing is wrong with a tag that has a name and a user that fits. -/
lemma fault?_tag_eq_none_iff {id : TagId} {user : UserId} :
    (tag id user).fault? d = none ↔ (d.name? id).isSome ∧ user.toNat < UInt32.size := by
  rw [fault?, ← Option.ne_none_iff_isSome]
  split_ifs <;> simp_all

/-- Nothing is wrong with a value that has a user that fits. -/
lemma fault?_value_eq_none_iff {key text : String} {user : UserId} :
    (value key text user).fault? d = none ↔ user.toNat < UInt32.size := by
  rw [fault?]
  split_ifs <;> simp_all

end RecordEntry

/-- The entries of a record: its tags, and then its attribute values. -/
def ImageRecord.written (r : ImageRecord) : List RecordEntry :=
  ((r.tags.getD ∅).entries.map fun e => .tag e.1 e.2) ++
    (r.attributes.getD ∅).pairs.map fun e => .value e.1 e.2.1 e.2.2

/-- The entries of a result, record by record. -/
def SearchResult.written (r : SearchResult) : List RecordEntry :=
  r.toRecords.flatMap ImageRecord.written

/-- The values of attributes stand by their keys and then by their texts. -/
lemma AttributeMap.pairwise_pairs (m : AttributeMap) :
    m.pairs.Pairwise fun e f => e.1 < f.1 ∨ e.1 = f.1 ∧ e.2.1 < f.2.1 := by
  rw [pairs, List.pairwise_flatMap]
  constructor
  · intro e _
    exact List.pairwise_map.2 (e.2.sorted.imp fun h => .inr ⟨rfl, h⟩)
  · refine m.sorted.imp fun h => ?_
    simp only [List.forall_mem_map]
    exact fun _ _ _ _ => .inl h

/-- The entries of a record stand in their order. -/
lemma ImageRecord.pairwise_written (r : ImageRecord) : r.written.Pairwise RecordEntry.Before := by
  refine List.pairwise_append.2 ⟨?_, ?_, ?_⟩
  · exact List.pairwise_map.2 (r.tags.getD ∅).sorted
  · exact List.pairwise_map.2 (r.attributes.getD ∅).pairwise_pairs
  · simp only [List.forall_mem_map]
    exact fun _ _ _ _ => trivial

namespace Table

open Wire

/-! ### Steps that fail -/

section

variable {ε α β : Type}

/-- How something fails, if it does. -/
def failure? : Except ε α → Option ε
  | .ok _ => none
  | .error e => some e

/-- What fails is an error. -/
lemma failure?_eq_some_iff {r : Except ε α} {e : ε} : failure? r = some e ↔ r = .error e := by
  cases r <;> simp [failure?]

/-- What does not fail answers. -/
lemma failure?_eq_none_iff {r : Except ε α} : failure? r = none ↔ ∃ a, r = .ok a := by
  cases r <;> simp [failure?]

/-- Two steps fail as the first, or else as the second, if it fails alike on all that the
first may answer. -/
lemma failure?_bind {r : Except ε α} {f : α → Except ε β} {o : Option ε}
    (h : ∀ a, failure? (f a) = o) : failure? (r >>= f) = (failure? r).or o := by
  cases r with
  | error e => rfl
  | ok a => exact h a

/-- Steps that only answer fail as what they answer from. -/
lemma failure?_map {r : Except ε α} (g : α → β) : failure? (g <$> r) = failure? r := by
  cases r <;> rfl

/-- A list of steps fails as the first of them that does. -/
lemma failure?_mapM (f : α → Except ε β) (l : List α) :
    failure? (l.mapM f) = l.findSome? fun a => failure? (f a) := by
  induction l with
  | nil => rfl
  | cons a l ih =>
    have hrest (b : β) : failure? (l.mapM f >>= fun bs => pure (b :: bs)) =
        l.findSome? fun a => failure? (f a) := by
      rw [← map_eq_pure_bind, failure?_map, ih]
    rw [List.mapM_cons, failure?_bind hrest, List.findSome?_cons]
    cases failure? (f a) <;> rfl

/-- The first find in lists put together is the first in the first of them that has one. -/
lemma findSome?_flatMap {γ : Type} (f : α → List β) (g : β → Option γ) (l : List α) :
    (l.flatMap f).findSome? g = l.findSome? fun a => (f a).findSome? g := by
  induction l with
  | nil => rfl
  | cons a l ih =>
    rw [List.flatMap_cons, List.findSome?_append, List.findSome?_cons, ih]
    cases (f a).findSome? g <;> rfl

/-- A step that is taken if there is something to take it on fails as it does. -/
lemma failure?_optionMapM (f : α → Except ε β) (o : Option α) :
    failure? (o.mapM f) = o.bind fun a => failure? (f a) := by
  cases o with
  | none => rfl
  | some a => exact failure?_map some

end

/-! ### The first fault of a result -/

variable (d : TagDictionary)

/-- How the entry of a record is refused, if it is. -/
def refusal? (e : RecordEntry) : Option DecodeError := (e.fault? d).map (.malformed 0)

/-- A user fails if it does not fit. -/
lemma failure?_narrowUser (of : Blamed) (user : UserId) :
    failure? (narrowUser of user) =
      if user.toNat < UInt32.size then none else some (.malformed 0 (.wideUser of user)) := by
  rw [narrowUser]
  split_ifs <;> rfl

/-- A tag fails for its fault. -/
lemma failure?_ofTag (e : TagId × UserId) :
    failure? (TagEntry.ofTag d e) = refusal? d (.tag e.1 e.2) := by
  rw [TagEntry.ofTag, refusal?, RecordEntry.fault?]
  cases d.name? e.1 with
  | none => rfl
  | some name =>
    dsimp only
    rw [← map_eq_pure_bind, failure?_map, failure?_narrowUser, if_neg (Option.some_ne_none name)]
    split_ifs <;> rfl

/-- A value fails for its fault. -/
lemma failure?_ofValue (key : String) (e : String × UserId) :
    failure? (AttributeEntry.ofValue key e) = refusal? d (.value key e.1 e.2) := by
  rw [AttributeEntry.ofValue, refusal?, RecordEntry.fault?, ← map_eq_pure_bind, failure?_map,
    failure?_narrowUser]
  split_ifs <;> rfl

/-- A record fails for the first fault of its entries. -/
lemma failure?_ofRecord (r : ImageRecord) :
    failure? (ImageEntry.ofRecord d r) = r.written.findSome? (refusal? d) := by
  have htags : failure? (r.tags.mapM fun m => m.entries.mapM (TagEntry.ofTag d)) =
      (r.tags.getD ∅).entries.findSome? fun e => refusal? d (.tag e.1 e.2) := by
    rw [failure?_optionMapM]
    cases r.tags with
    | none => rfl
    | some m => simp only [Option.bind_some, failure?_mapM, failure?_ofTag, Option.getD_some]
  have hattributes : failure? (r.attributes.mapM AttributeEntry.ofMap) =
      (r.attributes.getD ∅).pairs.findSome? fun e => refusal? d (.value e.1 e.2.1 e.2.2) := by
    rw [failure?_optionMapM]
    cases r.attributes with
    | none => rfl
    | some m =>
      simp only [Option.bind_some, AttributeEntry.ofMap, failure?_mapM, failure?_ofValue d,
        Option.getD_some, AttributeMap.pairs]
  rw [ImageEntry.ofRecord, ImageRecord.written, List.findSome?_append, List.findSome?_map,
    List.findSome?_map]
  refine (failure?_bind fun tags => ?_).trans (congrArg₂ Option.or htags rfl)
  rw [← map_eq_pure_bind, failure?_map, hattributes]
  rfl

/-- A result fails for the first fault of its entries. -/
lemma failure?_ofResult (r : SearchResult) :
    failure? (Document.ofResult d r) = r.written.findSome? (refusal? d) := by
  have hblank (blanks : List ImageRecord) (h : ∀ record ∈ blanks, record.written = []) :
      (blanks.flatMap ImageRecord.written).findSome? (refusal? d) = none := by
    rw [List.flatMap_eq_nil_iff.2 h, List.findSome?_nil]
  cases r with
  | ids l => exact (hblank _ (List.forall_mem_map.2 fun _ _ => rfl)).symm
  | hashes l => exact (hblank _ (List.forall_mem_map.2 fun _ _ => rfl)).symm
  | images l =>
    rw [Document.ofResult, ← map_eq_pure_bind, failure?_map, failure?_mapM, SearchResult.written,
      findSome?_flatMap]
    simp only [failure?_ofRecord, SearchResult.toRecords]

/-- A result is refused as its document. -/
lemma failure?_encodeResponse (r : SearchResult) :
    failure? (encodeResponse d r) = r.written.findSome? (refusal? d) := by
  rw [encodeResponse, ← map_eq_pure_bind, failure?_map, failure?_ofResult]

/-- Nothing is wrong with the entries of a record exactly if its tags have names and its
users fit. -/
lemma forall_written_iff (record : ImageRecord) :
    (∀ entry ∈ record.written, entry.fault? d = none) ↔
      (∀ t ∈ (record.tags.getD ∅).keys, (d.name? t).isSome) ∧ record.IsNarrow := by
  rw [ImageRecord.written, List.forall_mem_append, List.forall_mem_map, List.forall_mem_map,
    ImageRecord.IsNarrow, OrderedMap.keys, List.forall_mem_map]
  simp only [RecordEntry.fault?_tag_eq_none_iff, RecordEntry.fault?_value_eq_none_iff]
  constructor
  · rintro ⟨htags, hvalues⟩
    exact ⟨fun e he => (htags e he).1, fun e he => (htags e he).2, hvalues⟩
  · rintro ⟨hnames, htags, hvalues⟩
    exact ⟨fun e he => ⟨hnames e he, htags e he⟩, hvalues⟩

/-- **What cannot be written is refused, for the first entry that cannot.** The entries of
a record stand in their order: tags by ascending id, and then values by ascending key and
text. A result is written exactly if each tag has a name and each user is a number of 32
bits. It is refused exactly for the first of its entries with which something is wrong,
records taken one after another: for a tag without name, or for a user that is too
wide. -/
theorem encodeResponse_refuses_exactly (r : SearchResult) :
    (∀ record ∈ r.toRecords, record.written.Pairwise RecordEntry.Before) ∧
    ((∃ b, encodeResponse d r = .ok b) ↔ ∀ record ∈ r.toRecords,
      (∀ t ∈ (record.tags.getD ∅).keys, (d.name? t).isSome) ∧ record.IsNarrow) ∧
    ∀ e, encodeResponse d r = .error e ↔ ∃ before entry after fault,
      r.written = before ++ entry :: after ∧ (∀ x ∈ before, x.fault? d = none) ∧
        entry.fault? d = some fault ∧ e = .malformed 0 fault := by
  refine ⟨fun record _ => record.pairwise_written, ?_, fun e => ?_⟩
  · rw [← failure?_eq_none_iff, failure?_encodeResponse, List.findSome?_eq_none_iff]
    simp only [refusal?, Option.map_eq_none_iff, SearchResult.written, List.forall_mem_flatMap,
      forall_written_iff]
  · rw [← failure?_eq_some_iff, failure?_encodeResponse, List.findSome?_eq_some_iff]
    simp only [refusal?, Option.map_eq_none_iff, Option.map_eq_some_iff]
    constructor
    · rintro ⟨before, entry, after, hwritten, ⟨fault, hfault, rfl⟩, hbefore⟩
      exact ⟨before, entry, after, fault, hwritten, hbefore, hfault, rfl⟩
    · rintro ⟨before, entry, after, fault, hwritten, hbefore, hfault, rfl⟩
      exact ⟨before, entry, after, hwritten, ⟨fault, hfault, rfl⟩, hbefore⟩

/-- Of a tag without name whose user is too wide it is the name that is missed, and that
behind an image with nothing but an attribute. -/
example :
    let attributes : AttributeMap := AttributeMap.add ∅ "color" "red" 4
    let tags : TagMap := .ofList [(7, 0), (5, 0x100000000)]
    encodeResponse (.ofList [(7, "cat")])
      (.images [⟨none, none, none, some attributes⟩, ⟨none, none, some tags, none⟩]) =
        .error (.malformed 0 (.unnamedTag 5)) := by
  decide +kernel

end Table

end TagCatalog
