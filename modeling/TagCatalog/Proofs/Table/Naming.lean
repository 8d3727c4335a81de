import Mathlib.Tactic
import TagCatalog.Proofs.Table.Entries
import TagCatalog.Proofs.Table.Layout
import TagCatalog.Proofs.Wire.ReadBack

/-!
A result, and the document that says it with names for its tags.

* `TagDictionary.Names`: a tag whose name leads back to it.
* `SearchResult.withoutEmptyKeys`: a result without the attribute keys that have no values, which
  leave no trace in a document.
* `Document.toResult_of_ofResult`: a document that names the tags of a result says the result,
  without these keys.
-/

namespace TagCatalog

/-! ### Keys without values -/

/-- The attributes without the keys that have no values. -/
def AttributeMap.withoutEmptyKeys (m : AttributeMap) : AttributeMap where
  entries := m.entries.filter fun e => !e.2.isEmpty
  sorted := m.sorted.filter _

/-- The record without the attribute keys that have no values. -/
def ImageRecord.withoutEmptyKeys (r : ImageRecord) : ImageRecord :=
  { r with attributes := r.attributes.map AttributeMap.withoutEmptyKeys }

/-- The result without the attribute keys that have no values. -/
def SearchResult.withoutEmptyKeys : SearchResult → SearchResult
  | .ids l => .ids l
  | .hashes l => .hashes l
  | .images l => .images (l.map ImageRecord.withoutEmptyKeys)

namespace AttributeMap

/-- The values of a map, each with its key; a key without values leaves no trace. -/
def pairs (m : AttributeMap) : List (String × String × UserId) :=
  m.entries.flatMap fun e => e.2.entries.map (e.1, ·)

/-- Values that are added to a key one after another are joined to what it has. -/
lemma foldl_add (m : AttributeMap) (k : String) {values : List (String × UserId)}
    (h : values ≠ []) :
    values.foldl (fun m v => m.add k v.1 v.2) m =
      m.insert k (values.foldl (fun x v => x.insert v.1 v.2) ((m.get? k).getD ∅)) := by
  induction values generalizing m with
  | nil => exact absurd rfl h
  | cons v values ih =>
    rw [List.foldl_cons, List.foldl_cons]
    rcases eq_or_ne values [] with rfl | hvalues
    · rfl
    · rw [ih _ hvalues, add, OrderedMap.insert_insert, OrderedMap.get?_insert, if_pos rfl,
        Option.getD_some]

/-- A map is built again from its values, but for the keys that have none. -/
lemma foldl_add_pairs (m : AttributeMap) :
    m.pairs.foldl (fun m e => m.add e.1 e.2.1 e.2.2) ∅ = m.withoutEmptyKeys := by
  have hkey : ∀ (m : AttributeMap) (e : String × OrderedMap String UserId),
      e.2.entries.foldl (fun m v => m.add e.1 v.1 v.2) m =
        if !e.2.isEmpty then m.join e else m := by
    intro m e
    rcases eq_or_ne e.2.entries [] with hnone | hsome
    · rw [OrderedMap.isEmpty, hnone]
      rfl
    · rw [foldl_add m e.1 hsome, OrderedMap.isEmpty, List.isEmpty_eq_false_iff.2 hsome]
      rfl
  calc m.pairs.foldl (fun m e => m.add e.1 e.2.1 e.2.2) ∅
      = m.entries.foldl (fun m e => if !e.2.isEmpty then m.join e else m) ∅ := by
        rw [pairs, List.foldl_flatMap]
        simp only [List.foldl_map, hkey]
    _ = m.withoutEmptyKeys.entries.foldl join ∅ := List.foldl_filter.symm
    _ = m.withoutEmptyKeys := m.withoutEmptyKeys.foldl_join_entries

/-- The texts of the values of a map are short if all its texts are. -/
lemma isShort_of_mem_pairs {m : AttributeMap} (h : m.IsShort) {e : String × String × UserId}
    (he : e ∈ m.pairs) : Text.IsShort e.1 ∧ Text.IsShort e.2.1 := by
  obtain ⟨key, hkey, hvalue⟩ := List.mem_flatMap.1 he
  obtain ⟨v, hv, rfl⟩ := List.mem_map.1 hvalue
  exact ⟨(h key hkey).1, (h key hkey).2 v hv⟩

end AttributeMap

/-- Attributes of which each key has a value. -/
def AttributeMap.IsFilled (m : AttributeMap) : Prop := ∀ e ∈ m.entries, e.2.isEmpty = false

instance (m : AttributeMap) : Decidable m.IsFilled :=
  inferInstanceAs (Decidable (∀ _ ∈ _, _))

/-- If each key has a value, no key is left out. -/
lemma AttributeMap.withoutEmptyKeys_eq_self {m : AttributeMap} (h : m.IsFilled) :
    m.withoutEmptyKeys = m :=
  OrderedMap.ext (List.filter_eq_self.2 fun e he => by rw [h e he, Bool.not_false])

/-- If each key of a record has a value, no key is left out. -/
lemma ImageRecord.withoutEmptyKeys_eq_self {r : ImageRecord} (h : (r.attributes.getD ∅).IsFilled) :
    r.withoutEmptyKeys = r := by
  obtain ⟨id, hash, tags, attributes⟩ := r
  cases attributes with
  | none => rfl
  | some m =>
    exact congrArg (fun m => ImageRecord.mk id hash tags (some m))
      (AttributeMap.withoutEmptyKeys_eq_self h)

/-! ### Names and users that fit -/

/-- A tag whose name leads back to it. -/
def TagDictionary.Names (d : TagDictionary) (t : TagId) : Prop :=
  (d.name? t).bind d.id? = some t

instance (d : TagDictionary) (t : TagId) : Decidable (d.Names t) :=
  inferInstanceAs (Decidable (_ = _))

/-- A record whose tags all have names that lead back to them. -/
def ImageRecord.IsNamed (d : TagDictionary) (r : ImageRecord) : Prop :=
  ∀ t ∈ (r.tags.getD ∅).keys, d.Names t

-- along the list: tags are finitely many, and to go through all of them would take forever
instance (d : TagDictionary) (r : ImageRecord) : Decidable (r.IsNamed d) :=
  List.decidableBAll d.Names (r.tags.getD ∅).keys

/-- A record whose users are all numbers of 32 bits. -/
def ImageRecord.IsNarrow (r : ImageRecord) : Prop :=
  (∀ e ∈ (r.tags.getD ∅).entries, e.2.toNat < UInt32.size) ∧
    ∀ e ∈ (r.attributes.getD ∅).pairs, e.2.2.toNat < UInt32.size

instance (r : ImageRecord) : Decidable r.IsNarrow :=
  @instDecidableAnd _ _ (List.decidableBAll _ _) (List.decidableBAll _ _)

namespace Table

open Wire

variable {ε α β γ δ : Type}

/-! ### There and back -/

/-- What is said of a list item by item, and read up to what is forgotten, is read back. -/
lemma mapM_of_mapM {f : α → Except ε β} {g : γ → Except ε δ} {forget : γ → β} {w : α → δ}
    {l : List α} {l' : List γ} (hf : l.mapM f = .ok (l'.map forget))
    (h : ∀ a ∈ l, ∀ c, f a = .ok (forget c) → g c = .ok (w a)) : l'.mapM g = .ok (l.map w) := by
  rw [mapM_eq_ok_iff, List.forall₂_map_right_iff] at hf
  rw [mapM_eq_ok_iff, List.forall₂_map_right_iff]
  induction hf with
  | nil => exact .nil
  | cons hac _ ih =>
    exact .cons (h _ (by simp) _ hac) (ih fun a ha => h a (by simp [ha]))

/-- What is said of something that may be there is read back if it is. -/
lemma optionMapM_of_mapM {f : α → Except ε β} {g : γ → Except ε δ} {forget : γ → β} {w : α → δ}
    {o : Option α} {o' : Option γ} (hf : o.mapM f = .ok (o'.map forget))
    (h : ∀ a ∈ o, ∀ c, f a = .ok (forget c) → g c = .ok (w a)) : o'.mapM g = .ok (o.map w) := by
  rw [optionMapM_eq_ok_iff] at hf ⊢
  cases o' with
  | none =>
    cases o with
    | none => exact .none
    | some a => cases hf
  | some c =>
    cases o with
    | none => cases hf
    | some a =>
      cases hf with
      | some hac => exact .some (h a rfl c hac)

/-- A user fits if it is a number of 32 bits, which is then written. -/
lemma narrowUser_eq_ok_iff {of : Blamed} {user : UserId} {n : UInt32} :
    narrowUser of user = .ok n ↔ user = n.toUInt64 := by
  have hn := n.toNat_lt
  rw [narrowUser, ← UInt64.toNat_inj, UInt32.toNat_toUInt64]
  split
  next hfits =>
    rw [Except.ok.injEq, ← UInt32.toNat_inj, UInt64.toNat_toUInt32, Nat.mod_eq_of_lt hfits]
  next hwide =>
    refine ⟨nofun, fun h => absurd (h ▸ hn) hwide⟩

variable {d : TagDictionary}

/-- What a tag is written as. -/
lemma TagEntry.ofTag_eq_ok_iff {e : TagId × UserId} {t : TagEntry Unit} :
    ofTag d e = .ok t ↔ d.name? e.1 = some t.name ∧ e.2 = t.user.toUInt64 := by
  rw [ofTag]
  cases hname : d.name? e.1 with
  | none => exact iff_of_false (by rintro ⟨⟩) (by rintro ⟨⟨⟩, -⟩)
  | some name =>
    obtain ⟨_, name', user⟩ := t
    simp only [bind_eq_ok_iff, narrowUser_eq_ok_iff, Option.some.injEq]
    constructor
    · rintro ⟨n, hn, ⟨⟩⟩
      exact ⟨rfl, hn⟩
    · rintro ⟨rfl, hn⟩
      exact ⟨user, hn, rfl⟩

/-- A tag that is written under a name that leads back to it is read back. -/
lemma TagEntry.resolve_of_ofTag {e : TagId × UserId} {t : TagEntry Nat} (hnames : d.Names e.1)
    (h : ofTag d e = .ok t.unplaced) : t.resolve d = .ok e := by
  obtain ⟨hname, huser⟩ := ofTag_eq_ok_iff.1 h
  have hid : d.id? t.name = some e.1 := by
    rw [TagDictionary.Names, hname] at hnames
    exact hnames
  have huser : e.2 = t.user.toUInt64 := huser
  rw [resolve, hid]
  exact congrArg (fun user => Except.ok (e.1, user)) huser.symm

/-- What an attribute value is written as. -/
lemma AttributeEntry.ofValue_eq_ok_iff {key : String} {e : String × UserId}
    {a : AttributeEntry Unit} :
    ofValue key e = .ok a ↔ a.key = key ∧ a.value = e.1 ∧ e.2 = a.user.toUInt64 := by
  obtain ⟨_, key', value, user⟩ := a
  rw [ofValue, bind_eq_ok_iff]
  simp only [narrowUser_eq_ok_iff]
  constructor
  · rintro ⟨n, hn, ⟨⟩⟩
    exact ⟨rfl, rfl, hn⟩
  · rintro ⟨rfl, rfl, hn⟩
    exact ⟨user, hn, rfl⟩

/-- A short text passes. -/
lemma checkString_of_isShort {place : Nat} {s : String} (h : Text.IsShort s) :
    checkString place s = .ok () := by
  rw [Text.IsShort, Utf8.length_encode] at h
  exact if_neg (Nat.not_lt.2 h)

/-- Attribute values are read into a map one after another. -/
lemma resolveAttributes_of_mapM {pairs : List (String × String × UserId)}
    {l : List (AttributeEntry Nat)}
    (hshort : ∀ e ∈ pairs, Text.IsShort e.1 ∧ Text.IsShort e.2.1)
    (h : (pairs.mapM fun e => AttributeEntry.ofValue e.1 e.2) =
      .ok (l.map AttributeEntry.unplaced)) :
    resolveAttributes l = .ok (pairs.foldl (fun m e => m.add e.1 e.2.1 e.2.2) ∅) := by
  rw [resolveAttributes]
  generalize (∅ : AttributeMap) = m
  rw [mapM_eq_ok_iff, List.forall₂_map_right_iff] at h
  induction h generalizing m with
  | nil => rfl
  | @cons e a pairs l hea _ ih =>
    obtain ⟨hkey, hvalue, huser⟩ := AttributeEntry.ofValue_eq_ok_iff.1 hea
    have hkey : a.key = e.1 := hkey
    have hvalue : a.value = e.2.1 := hvalue
    have huser : e.2.2 = a.user.toUInt64 := huser
    obtain ⟨hshortKey, hshortValue⟩ := hshort e (by simp)
    have hcheck : a.check = .ok () := by
      rw [AttributeEntry.check, hkey, hvalue, checkString_of_isShort hshortKey,
        checkString_of_isShort hshortValue]
      rfl
    rw [List.foldlM_cons, hcheck, List.foldl_cons, hkey, hvalue, ← huser]
    exact ih (fun f hf => hshort f (by simp [hf])) _

/-- The tags of a record are read back. -/
lemma resolveTags_of_mapM {m : TagMap} {l : List (TagEntry Nat)}
    (hnames : ∀ t ∈ m.keys, d.Names t)
    (h : m.entries.mapM (TagEntry.ofTag d) = .ok (l.map TagEntry.unplaced)) :
    resolveTags d l = .ok m := by
  have hentries : l.mapM (TagEntry.resolve d) = .ok (m.entries.map id) :=
    mapM_of_mapM h fun e he t => TagEntry.resolve_of_ofTag (hnames e.1 (List.mem_map_of_mem he))
  rw [resolveTags, hentries, List.map_id]
  exact congrArg Except.ok m.ofList_entries

/-- The attributes of a record are read back, but for the keys that have no values. -/
lemma resolveAttributes_of_ofMap {m : AttributeMap} {l : List (AttributeEntry Nat)}
    (hshort : m.IsShort) (h : AttributeEntry.ofMap m = .ok (l.map AttributeEntry.unplaced)) :
    resolveAttributes l = .ok m.withoutEmptyKeys := by
  rw [← m.foldl_add_pairs]
  exact resolveAttributes_of_mapM (fun e he => m.isShort_of_mem_pairs hshort he) h

/-- A record that is written with names for its tags is read back from where it is written. -/
lemma ImageEntry.resolve_of_ofRecord {r : ImageRecord} {i : ImageEntry Nat} (hnames : r.IsNamed d)
    (hshort : (r.attributes.getD ∅).IsShort) (h : ofRecord d r = .ok i.unplaced) :
    i.resolve d = .ok r.withoutEmptyKeys := by
  obtain ⟨tags, htags, h⟩ := bind_eq_ok_iff.1 h
  obtain ⟨attributes, hattributes, h⟩ := bind_eq_ok_iff.1 h
  obtain ⟨hid, hhash, rfl, rfl⟩ := ImageEntry.mk.inj (Except.ok.inj h)
  have hresolveTags : i.tags.mapM (resolveTags d) = .ok (r.tags.map fun m => m) := by
    refine optionMapM_of_mapM htags fun m hm l => resolveTags_of_mapM ?_
    rwa [ImageRecord.IsNamed, Option.mem_def.1 hm] at hnames
  have hresolveAttributes : i.attributes.mapM resolveAttributes =
      .ok (r.attributes.map AttributeMap.withoutEmptyKeys) := by
    refine optionMapM_of_mapM hattributes fun m hm l => resolveAttributes_of_ofMap ?_
    rwa [Option.mem_def.1 hm] at hshort
  rw [resolve, hresolveTags, hresolveAttributes, Option.map_id']
  show Except.ok (ImageRecord.mk i.id i.hash _ _) = _
  rw [← hid, ← hhash]
  rfl

/-- A record can be written if its tags have names and its users fit. -/
lemma ImageEntry.exists_ofRecord {r : ImageRecord} (hnames : r.IsNamed d) (husers : r.IsNarrow) :
    ∃ i, ofRecord d r = .ok i := by
  have hfits : ∀ (of : Blamed) {user : UserId}, user.toNat < UInt32.size →
      ∃ n, narrowUser of user = .ok n := fun _ _ h => ⟨_, if_pos h⟩
  obtain ⟨tags, htags⟩ : ∃ tags, (r.tags.mapM fun m => m.entries.mapM (TagEntry.ofTag d)) =
      .ok tags := by
    refine exists_optionMapM_eq_ok fun m hm => exists_mapM_eq_ok fun e he => ?_
    rw [ImageRecord.IsNamed, Option.mem_def.1 hm] at hnames
    rw [ImageRecord.IsNarrow, Option.mem_def.1 hm] at husers
    obtain ⟨name, hname, -⟩ := Option.bind_eq_some_iff.1 (hnames e.1 (List.mem_map_of_mem he))
    obtain ⟨n, hn⟩ := hfits .tag (husers.1 e he)
    exact ⟨⟨(), name, n⟩, TagEntry.ofTag_eq_ok_iff.2 ⟨hname, narrowUser_eq_ok_iff.1 hn⟩⟩
  obtain ⟨attributes, hattributes⟩ : ∃ attributes, r.attributes.mapM AttributeEntry.ofMap =
      .ok attributes := by
    refine exists_optionMapM_eq_ok fun m hm => exists_mapM_eq_ok fun e he => ?_
    rw [ImageRecord.IsNarrow, Option.mem_def.1 hm] at husers
    obtain ⟨n, hn⟩ := hfits .attribute (husers.2 e he)
    exact ⟨⟨(), e.1, e.2.1, n⟩,
      AttributeEntry.ofValue_eq_ok_iff.2 ⟨rfl, rfl, narrowUser_eq_ok_iff.1 hn⟩⟩
  exact ⟨_, bind_eq_ok_iff.2 ⟨tags, htags, bind_eq_ok_iff.2 ⟨attributes, hattributes, rfl⟩⟩⟩

/-- A result can be written if all tags have names and all users fit. -/
lemma Document.exists_ofResult {r : SearchResult}
    (hnames : ∀ record ∈ r.toRecords, record.IsNamed d)
    (husers : ∀ record ∈ r.toRecords, record.IsNarrow) :
    ∃ document, ofResult d r = .ok document := by
  cases r with
  | ids l => exact ⟨.ids l, rfl⟩
  | hashes l => exact ⟨.hashes l, rfl⟩
  | images l =>
    obtain ⟨images, himages⟩ := exists_mapM_eq_ok fun r hr =>
      ImageEntry.exists_ofRecord (hnames r hr) (husers r hr)
    exact ⟨.images images, bind_eq_ok_iff.2 ⟨images, himages, rfl⟩⟩

/-- **A result is read back from the document that names its tags**, without the attribute keys
that have no values. -/
lemma Document.toResult_of_ofResult {r : SearchResult} {document : Document Nat}
    (hnames : ∀ record ∈ r.toRecords, record.IsNamed d)
    (hshort : ∀ record ∈ r.toRecords, (record.attributes.getD ∅).IsShort)
    (h : ofResult d r = .ok document.unplaced) :
    document.toResult d = .ok r.withoutEmptyKeys := by
  cases r with
  | ids l =>
    cases document <;> cases h
    rfl
  | hashes l =>
    cases document <;> cases h
    rfl
  | images l =>
    obtain ⟨images, himages, h⟩ := bind_eq_ok_iff.1 h
    cases document with
    | images l' =>
      cases h
      rw [toResult, mapM_of_mapM himages fun r hr i =>
        ImageEntry.resolve_of_ofRecord (hnames r hr) (hshort r hr)]
      rfl
    | _ => cases h

end Table

end TagCatalog
