import Mathlib.Tactic
import TagCatalog.Proofs.Table.RoundTrip
import TagCatalog.Proofs.Table.Visits
import TagCatalog.Proofs.TagDictionary

/-!
What is read can be written again.

A foreign response may be laid out in any way, but what is read of it is like what is written: each
tag is one that a name leads to, each user is a number of 32 bits, each key has a value, no text is
too long, and there is no more of all than the response has tables.

* `AttributeMap.IsRead`: attributes that have been read of so many values; `IsRead.add` is the step
  and `isRead_of_resolveAttributes` the run.
* `ImageRecord.IsRead`, `isRead_of_toResult`: the records that are read.
* `ImageRecord.tables`, `tables_ofResult`: the tables that a record or a result is written in.
* `decoded_is_rewritable`: what is read is written, and then read again.
-/

namespace TagCatalog

/-! ### Attributes -/

namespace AttributeMap

variable {m : AttributeMap} {n : Nat}

/-- A value has been added or was there before. -/
lemma mem_pairs_add {key value : String} {user : UserId} {e : String × String × UserId}
    (h : e ∈ (m.add key value user).pairs) : e = (key, value, user) ∨ e ∈ m.pairs := by
  obtain ⟨entry, hentry, h⟩ := List.mem_flatMap.1 h
  obtain ⟨v, hv, rfl⟩ := List.mem_map.1 h
  rcases OrderedMap.mem_place hentry with rfl | hentry
  · rcases OrderedMap.mem_place hv with rfl | hv
    · exact .inl rfl
    · cases hkey : m.get? key with
      | none =>
        rw [hkey] at hv
        cases hv
      | some values =>
        rw [hkey] at hv
        exact .inr (List.mem_flatMap.2
          ⟨(key, values), OrderedMap.mem_entries_iff.2 hkey, List.mem_map_of_mem hv⟩)
  · exact .inr (List.mem_flatMap.2 ⟨entry, hentry, List.mem_map_of_mem hv⟩)

/-- The values of a map are those of its keys. -/
lemma length_pairs (m : AttributeMap) : m.pairs.length = m.total fun e => e.2.size := by
  rw [pairs, List.length_flatMap]
  simp only [List.length_map]
  rfl

/-- With one more value there is one more at most. -/
lemma length_pairs_add_le (m : AttributeMap) (key value : String) (user : UserId) :
    (m.add key value user).pairs.length ≤ m.pairs.length + 1 := by
  have htotal := OrderedMap.total_insert_add (fun e => e.2.size) m key
    (((m.get? key).getD ∅).insert value user)
  have hsize := OrderedMap.size_insert_le ((m.get? key).getD ∅) value user
  rw [length_pairs, length_pairs, add]
  cases hkey : m.get? key with
  | none =>
    rw [hkey] at htotal hsize
    simp only [Option.elim_none, Option.getD_none, OrderedMap.size_empty] at htotal hsize ⊢
    omega
  | some values =>
    rw [hkey] at htotal hsize
    simp only [Option.elim_some, Option.getD_some] at htotal hsize ⊢
    omega

/-- Attributes that have been read of so many values: each key has a value, no text is too long,
and each user is a number of 32 bits. -/
structure IsRead (m : AttributeMap) (n : Nat) : Prop where
  filled : m.IsFilled
  fits : ∀ e ∈ m.pairs, Text.IsShort e.1 ∧ Text.IsShort e.2.1 ∧ e.2.2.toNat < UInt32.size
  length_le : m.pairs.length ≤ n

namespace IsRead

/-- No attributes are read of no values. -/
lemma empty : IsRead ∅ 0 := ⟨nofun, nofun, le_rfl⟩

/-- One more value is read. -/
lemma add (h : m.IsRead n) {key value : String} {user : UserId} (hkey : Text.IsShort key)
    (hvalue : Text.IsShort value) (huser : user.toNat < UInt32.size) :
    (m.add key value user).IsRead (n + 1) where
  filled := by
    intro e he
    rcases OrderedMap.mem_place he with rfl | he
    · exact OrderedMap.isEmpty_insert _ _ _
    · exact h.filled e he
  fits := by
    intro e he
    rcases mem_pairs_add he with rfl | he
    · exact ⟨hkey, hvalue, huser⟩
    · exact h.fits e he
  length_le := (m.length_pairs_add_le key value user).trans (Nat.succ_le_succ h.length_le)

/-- No text of attributes that have been read is too long. -/
lemma isShort (h : m.IsRead n) : m.IsShort := by
  intro e he
  have hpair : ∀ v ∈ e.2.entries, (e.1, v) ∈ m.pairs := fun v hv =>
    List.mem_flatMap.2 ⟨e, he, List.mem_map_of_mem hv⟩
  obtain ⟨v, hv⟩ := List.exists_mem_of_ne_nil _ (List.isEmpty_eq_false_iff.1 (h.filled e he))
  exact ⟨(h.fits _ (hpair v hv)).1, fun w hw => (h.fits _ (hpair w hw)).2.1⟩

end IsRead

end AttributeMap

/-! ### Records -/

/-- The tables that a record is written in: its own, and one for each tag and each value. -/
def ImageRecord.tables (r : ImageRecord) : Nat :=
  1 + ((r.tags.getD ∅).size + (r.attributes.getD ∅).pairs.length)

/-- The tables that a result is written in: the root, the member, and those of the records. -/
def SearchResult.tables : SearchResult → Nat
  | .ids _ => 2
  | .hashes _ => 2
  | .images l => 2 + (l.map ImageRecord.tables).sum

/-- A record as it is read with a dictionary: each tag has a name that leads back to it, each user
is a number of 32 bits, each key has a value, and no text is too long. -/
structure ImageRecord.IsRead (d : TagDictionary) (r : ImageRecord) : Prop where
  named : r.IsNamed d
  narrow : r.IsNarrow
  filled : (r.attributes.getD ∅).IsFilled
  short : (r.attributes.getD ∅).IsShort

namespace Table

open Wire

variable {d : TagDictionary}

/-- A short text passes, and no other. -/
lemma checkString_eq_ok_iff {place : Nat} {s : String} :
    checkString place s = .ok () ↔ Text.IsShort s := by
  refine ⟨fun h => ?_, checkString_of_isShort⟩
  rw [checkString] at h
  rw [Text.IsShort, Utf8.length_encode]
  split at h
  next => cases h
  next hfits => exact Nat.le_of_not_lt hfits

/-- What a tag is read as. -/
lemma TagEntry.resolve_eq_ok_iff {t : TagEntry Nat} {e : TagId × UserId} :
    t.resolve d = .ok e ↔ d.id? t.name = some e.1 ∧ e.2 = t.user.toUInt64 := by
  rw [resolve]
  cases d.id? t.name with
  | none => exact iff_of_false (by rintro ⟨⟩) (by rintro ⟨⟨⟩, -⟩)
  | some id =>
    rw [Except.ok.injEq, Option.some.injEq, Prod.ext_iff]
    exact and_congr_right fun _ => eq_comm

/-- Values that are read one after another join those that have been read before. -/
lemma isRead_of_foldlM {l : List (AttributeEntry Nat)} {m m' : AttributeMap} {n : Nat}
    (h : l.foldlM (fun m (e : AttributeEntry Nat) => do
      e.check
      return m.add e.key e.value e.user.toUInt64) m = .ok m') (hm : m.IsRead n) :
    m'.IsRead (n + l.length) := by
  -- along what is left to read, the map so far has been read of the values before
  induction l generalizing m n with
  | nil =>
    cases h
    exact hm
  | cons a l ih =>
    rw [List.foldlM_cons, bind_eq_ok_iff] at h
    obtain ⟨m₁, hstep, hrest⟩ := h
    obtain ⟨_, hcheck, ⟨⟩⟩ := bind_eq_ok_iff.1 hstep
    obtain ⟨_, hkey, hvalue⟩ := bind_eq_ok_iff.1 hcheck
    have huser : a.user.toUInt64.toNat < UInt32.size := a.user.toNat_lt
    have hnext := ih hrest
      (hm.add (checkString_eq_ok_iff.1 hkey) (checkString_eq_ok_iff.1 hvalue) huser)
    rwa [List.length_cons, Nat.add_comm l.length, ← Nat.add_assoc]

/-- The attributes of a record have been read of the values of its image. -/
lemma isRead_of_resolveAttributes {l : List (AttributeEntry Nat)} {m : AttributeMap}
    (h : resolveAttributes l = .ok m) : m.IsRead l.length := by
  have hread := isRead_of_foldlM h AttributeMap.IsRead.empty
  rwa [Nat.zero_add] at hread

/-- The tags of a record have names that lead back to them, and their users fit, and there are no
more of them than tags of its image. -/
lemma names_of_resolveTags (hd : d.LeadsBack) {l : List (TagEntry Nat)} {m : TagMap}
    (h : resolveTags d l = .ok m) :
    (∀ e ∈ m.entries, d.Names e.1 ∧ e.2.toNat < UInt32.size) ∧ m.size ≤ l.length := by
  obtain ⟨entries, hentries, ⟨⟩⟩ := bind_eq_ok_iff.1 h
  constructor
  · intro e he
    obtain he | he := OrderedMap.mem_foldl_insert he
    · obtain ⟨t, -, ht⟩ := exists_of_mem_mapM hentries he
      obtain ⟨hid, huser⟩ := TagEntry.resolve_eq_ok_iff.1 ht
      refine ⟨?_, ?_⟩
      · rw [TagDictionary.Names, hd _ _ hid, Option.bind_some, hid]
      · rw [huser]
        exact t.user.toNat_lt
    · cases he
  · have hsize := OrderedMap.size_foldl_insert_le entries (∅ : TagMap)
    rw [OrderedMap.size_empty, Nat.zero_add, length_eq_of_mapM hentries] at hsize
    exact hsize

/-- A record is read of its image, and takes no more tables. -/
lemma isRead_of_resolve (hd : d.LeadsBack) {i : ImageEntry Nat} {r : ImageRecord}
    (h : i.resolve d = .ok r) : r.IsRead d ∧ r.tables ≤ i.cost.tables := by
  obtain ⟨id, hash, tagEntries, values⟩ := i
  obtain ⟨tags, htags, h⟩ := bind_eq_ok_iff.1 h
  obtain ⟨attributes, hattributes, ⟨⟩⟩ := bind_eq_ok_iff.1 h
  dsimp only at htags hattributes
  obtain ⟨hnames, htagCount⟩ : (∀ e ∈ (tags.getD ∅).entries, d.Names e.1 ∧
      e.2.toNat < UInt32.size) ∧ (tags.getD ∅).size ≤ (tagEntries.getD []).length := by
    rcases optionMapM_eq_ok_iff.1 htags with hread | _
    · exact names_of_resolveTags hd hread
    · exact ⟨nofun, le_rfl⟩
  have hread : (attributes.getD ∅).IsRead (values.getD []).length := by
    rcases optionMapM_eq_ok_iff.1 hattributes with hread | _
    · exact isRead_of_resolveAttributes hread
    · exact .empty
  refine ⟨⟨fun t ht => ?_, ⟨fun e he => (hnames e he).2, fun e he => (hread.fits e he).2.2⟩,
    hread.filled, hread.isShort⟩, ?_⟩
  · obtain ⟨e, he, rfl⟩ := List.mem_map.1 ht
    exact (hnames e he).1
  · rw [ImageEntry.tables_cost]
    exact Nat.add_le_add_left (Nat.add_le_add htagCount hread.length_le) 1

/-- The records of a result are read of its document, and take no more tables than it, or than the
smallest response does. -/
lemma isRead_of_toResult (hd : d.LeadsBack) {document : Document Nat} {r : SearchResult}
    (h : document.toResult d = .ok r) :
    (∀ record ∈ r.toRecords, record.IsRead d) ∧ r.tables ≤ max 2 document.cost.tables := by
  have hblank : ∀ id hash, (⟨id, hash, none, none⟩ : ImageRecord).IsRead d := fun _ _ =>
    ⟨nofun, ⟨nofun, nofun⟩, nofun, nofun⟩
  cases document with
  | nothing =>
    cases h
    exact ⟨nofun, le_max_left _ _⟩
  | ids l =>
    cases h
    refine ⟨fun record hrecord => ?_, le_max_left _ _⟩
    obtain ⟨id, -, rfl⟩ := List.mem_map.1 hrecord
    exact hblank _ _
  | hashes l =>
    cases h
    refine ⟨fun record hrecord => ?_, le_max_left _ _⟩
    obtain ⟨hash, -, rfl⟩ := List.mem_map.1 hrecord
    exact hblank _ _
  | images l =>
    obtain ⟨records, hrecords, ⟨⟩⟩ := bind_eq_ok_iff.1 h
    refine ⟨fun record hrecord => ?_, le_max_of_le_right ?_⟩
    · obtain ⟨i, -, hi⟩ := exists_of_mem_mapM hrecords hrecord
      exact (isRead_of_resolve hd hi).1
    · rw [Document.tables_cost]
      refine Nat.add_le_add_left ?_ 2
      have hle : List.Forall₂ (· ≤ ·) (records.map ImageRecord.tables)
          (l.map fun i => i.cost.tables) := by
        rw [List.forall₂_map_left_iff, List.forall₂_map_right_iff]
        exact (mapM_eq_ok_iff.1 hrecords).flip.imp fun _ _ hi => (isRead_of_resolve hd hi).2
      exact hle.sum_le_sum

/-- A record is written in as many tables as it takes. -/
lemma tables_ofRecord {r : ImageRecord} {i : ImageEntry Unit}
    (h : ImageEntry.ofRecord d r = .ok i) : i.cost.tables = r.tables := by
  obtain ⟨id, hash, tags, attributes⟩ := r
  obtain ⟨tagEntries, htags, h⟩ := bind_eq_ok_iff.1 h
  obtain ⟨values, hattributes, ⟨⟩⟩ := bind_eq_ok_iff.1 h
  dsimp only at htags hattributes
  have htagCount : (tagEntries.getD []).length = (tags.getD ∅).size := by
    rcases optionMapM_eq_ok_iff.1 htags with hwritten | _
    · exact length_eq_of_mapM hwritten
    · rfl
  have hvalueCount : (values.getD []).length = (attributes.getD ∅).pairs.length := by
    rcases optionMapM_eq_ok_iff.1 hattributes with hwritten | _
    · exact length_eq_of_mapM hwritten
    · rfl
  rw [ImageEntry.tables_cost, ImageRecord.tables, htagCount, hvalueCount]

/-- A result is written in as many tables as it takes. -/
lemma tables_ofResult {r : SearchResult} {document : Document Unit}
    (h : Document.ofResult d r = .ok document) : document.cost.tables = r.tables := by
  cases r with
  | ids l =>
    cases h
    exact Document.tables_cost _
  | hashes l =>
    cases h
    exact Document.tables_cost _
  | images l =>
    obtain ⟨images, himages, ⟨⟩⟩ := bind_eq_ok_iff.1 h
    have heq : images.map (fun i => i.cost.tables) = l.map ImageRecord.tables := by
      rw [← List.forall₂_eq_eq_eq, List.forall₂_map_left_iff, List.forall₂_map_right_iff]
      exact (mapM_eq_ok_iff.1 himages).flip.imp fun _ _ hi => tables_ofRecord hi
    rw [Document.tables_cost]
    exact congrArg (fun l => 2 + l.sum) heq

/-- If each key of a result has a value, no key is left out. -/
lemma withoutEmptyKeys_of_isRead {r : SearchResult} (h : ∀ record ∈ r.toRecords, record.IsRead d) :
    r.withoutEmptyKeys = r := by
  cases r with
  | ids l => rfl
  | hashes l => rfl
  | images l =>
    exact congrArg SearchResult.images ((List.map_congr_left fun r hr =>
      ImageRecord.withoutEmptyKeys_eq_self (h r hr).filled).trans (List.map_id' l))

/-- **What is read is written, and then read again.** Let a dictionary come from any changes, and
let any response be decoded with it to a result. Then the result can be written, under names for
its tags. If what is written and the bytes that its verification refers to are within the limits,
its checks refer to just these bytes, and it is decoded to the same result. -/
theorem decoded_is_rewritable (changes : List TagDictionary.Change) {b : Bytes} {r : SearchResult}
    (h : decodeResponse (.ofChanges changes) b = .ok r) :
    ∃ document, Document.ofResult (.ofChanges changes) r = .ok document ∧
      encodeResponse (.ofChanges changes) r = .ok document.encode ∧
      (document.encode.length ≤ maxResponseSize → document.cost.apparent ≤ maxResponseSize →
        Check.response document.encode.toArray ⟨0, 0⟩ = .ok ((), document.cost) ∧
        decodeResponse (.ofChanges changes) document.encode = .ok r) := by
  have hd := TagDictionary.leadsBack_ofChanges changes
  obtain ⟨-, hverify, read, hread, hresult⟩ := decodeResponse_eq_ok_iff.1 h
  obtain ⟨hrecords, htables⟩ := isRead_of_toResult hd hresult
  have hnames : ∀ record ∈ r.toRecords, record.IsNamed _ := fun _ hr => (hrecords _ hr).named
  obtain ⟨document, hdocument⟩ := Document.exists_ofResult hnames fun _ hr => (hrecords _ hr).narrow
  refine ⟨document, hdocument, encodeResponse_eq_ok_iff.2 ⟨document, hdocument, rfl⟩, ?_⟩
  intro hsize happarent
  -- no more tables are written than were visited when the response was verified
  have hfits : document.cost.Fits := by
    refine ⟨happarent, ?_⟩
    calc document.cost.tables = r.tables := tables_ofResult hdocument
      _ ≤ max 2 read.cost.tables := htables
      _ ≤ maxTables := max_le (by decide) (tables_cost_le_of_verify hverify hread)
  refine ⟨response_encode hsize hfits, ?_⟩
  have hagain :=
    decodeResponse_encode hdocument hnames (fun _ hr => (hrecords _ hr).short) hsize hfits
  rwa [withoutEmptyKeys_of_isRead hrecords] at hagain

/-- A response in which two images are one table, and this has two tags under one name, is written
as two images with one tag each and read again. Its tag had another name before, that another tag
has now. -/
theorem decoded_is_rewritable_sharedImage :
    let changes : List TagDictionary.Change := [.insert 1 "cat", .clear, .insert 5 "cat",
      .insert 9 "cat", .insert 5 "dog", .insert 7 "bird"]
    let shared : Bytes := [
      28, 0, 0, 0, 8, 0, 12, 0, 4, 0, 8, 0, 6, 0, 8, 0, 4, 0, 10, 0, 8, 0, 0, 0, 0, 0, 4, 0,
      24, 0, 0, 0, 3, 0, 0, 0, 4, 0, 0, 0, 28, 0, 0, 0, 4, 0, 0, 0, 2, 0, 0, 0, 8, 0, 0, 0,
      4, 0, 0, 0, 42, 0, 0, 0, 4, 0, 0, 0, 2, 0, 0, 0, 8, 0, 0, 0, 16, 0, 0, 0, 76, 0, 0, 0,
      16, 0, 0, 0, 3, 0, 0, 0, 80, 0, 0, 0, 4, 0, 0, 0, 3, 0, 0, 0, 100, 111, 103, 0]
    let record : ImageRecord := ⟨none, none, some (.ofList [(5, 0)]), none⟩
    let r : SearchResult := .images [record, record]
    decodeResponse (.ofChanges changes) shared = .ok r ∧
      ∃ b, encodeResponse (.ofChanges changes) r = .ok b ∧ shared.length < b.length ∧
        decodeResponse (.ofChanges changes) b = .ok r := by
  intro changes shared record r
  have h : decodeResponse (.ofChanges changes) shared = .ok r := by decide +kernel
  let image : ImageEntry Unit := ⟨none, none, some [⟨(), "dog", 0⟩], none⟩
  have hwritten : Document.ofResult (.ofChanges changes) r = .ok (.images [image, image]) := by
    decide +kernel
  obtain ⟨document, hdocument, hencode, hread⟩ := decoded_is_rewritable changes h
  obtain rfl : .images [image, image] = document := Except.ok.inj (hwritten.symm.trans hdocument)
  exact ⟨h, _, hencode, by decide +kernel, (hread (by decide +kernel) (by decide +kernel)).2⟩

end Table

end TagCatalog
