import Mathlib.Tactic
import TagCatalog.Proofs.Table.Walk

/-!
Where the parts of a document stand in a response, and that they are read there.

A layout says of a position what stands there and what the distances there lead to. It leaves
open how the parts are ordered, what lies between them and whether two tables share an index.

* `NumberAt`, `HashAt`, `TextAt`, `LinkAt`, `ListAt`: numbers, hashes, texts, distances and lists.
* `TableAt`: a table, given by what stands at each of the slots it may have.
* `TagAt`, `KeyedValueAt`, `ImageAt`, `DocumentAt`: the parts of a document.
* `TagEntry.unplaced` to `Document.unplaced`: entries without the places of their tables.
* `View.document_of_documentAt`: a document is read where it stands.
-/

namespace TagCatalog.Table

open Wire

variable {α β π : Type}

/-! ### Entries without places -/

/-- A tag without its place. -/
def TagEntry.unplaced (e : TagEntry π) : TagEntry Unit := ⟨(), e.name, e.user⟩

/-- An attribute value without its place. -/
def AttributeEntry.unplaced (e : AttributeEntry π) : AttributeEntry Unit :=
  ⟨(), e.key, e.value, e.user⟩

/-- An image without the places of its entries. -/
def ImageEntry.unplaced (i : ImageEntry π) : ImageEntry Unit :=
  ⟨i.id, i.hash, i.tags.map (·.map TagEntry.unplaced),
    i.attributes.map (·.map AttributeEntry.unplaced)⟩

/-- A document without the places of its entries. -/
def Document.unplaced : Document π → Document Unit
  | .nothing => .nothing
  | .ids l => .ids l
  | .hashes l => .hashes l
  | .images l => .images (l.map ImageEntry.unplaced)

/-! ### Numbers, texts, distances and lists -/

/-- A number of `width` bytes stands at a multiple of them. -/
def NumberAt (b : Buffer) (width n p : Nat) : Prop := p % width = 0 ∧ b.uint? p width = some n

/-- A number has as many bytes as it is wide. -/
lemma NumberAt.room {b : Buffer} {width n p : Nat} (h : NumberAt b width n p) (hw : 0 < width) :
    p + width ≤ b.size := by
  obtain ⟨-, h⟩ := h
  induction width generalizing p n with
  | zero => exact absurd hw (Nat.lt_irrefl 0)
  | succ width ih =>
    rw [Buffer.uint?] at h
    obtain ⟨low, hlow, h⟩ := Option.bind_eq_some_iff.1 h
    obtain ⟨high, hhigh, -⟩ := Option.bind_eq_some_iff.1 h
    obtain ⟨hp, -⟩ := Array.getElem?_eq_some_iff.1 hlow
    rcases Nat.eq_zero_or_pos width with rfl | hpos
    · exact hp
    · have hrest := ih hpos hhigh
      omega

/-- A hash, which may stand anywhere. -/
def HashAt (b : Buffer) (h : ImageHash) (p : Nat) : Prop :=
  p + ImageHash.size ≤ b.size ∧ b.slice p (p + ImageHash.size) = h.bytes

/-- A distance to what stands somewhere else. -/
def LinkAt (b : Buffer) (target : Nat → Prop) (p : Nat) : Prop :=
  ∃ n, NumberAt b 4 n p ∧ target (p + n)

/-- A text with its length in front and a zero byte behind. -/
structure TextAt (b : Buffer) (s : String) (p : Nat) : Prop where
  length : NumberAt b 4 (Utf8.encode s).length p
  bytes : b.slice (p + 4) (p + 4 + (Utf8.encode s).length) = Utf8.encode s
  ended : b[p + 4 + (Utf8.encode s).length]? = some 0

/-- A list of elements of `size` bytes each, with their number in front. -/
structure ListAt (b : Buffer) (size : Nat) (element : α → Nat → Prop) (l : List α) (p : Nat) :
    Prop where
  length : NumberAt b 4 l.length p
  room : p + 4 + l.length * size ≤ b.size
  elements : ∀ i (hi : i < l.length), element l[i] (p + 4 + i * size)

/-- A list of distances to tables. -/
def TablesAt (b : Buffer) (table : α → Nat → Prop) (l : List α) (p : Nat) : Prop :=
  ListAt b 4 (fun a => LinkAt b (table a)) l p

/-! ### Tables -/

/-- The length of the index of a table with these slots, of which some have a field: it goes up to
the last slot that has one. -/
def indexLength (slots : List (Slot × Option α)) : Nat :=
  slots.foldl (fun length e => if e.2.isSome then max length (e.1 + 2) else length) indexHead

/-- A table and its index, given by what stands at each of the slots that a table of its kind may
have. -/
structure FieldsAt (b : Buffer) (slots : List (Slot × Option (Nat → Prop))) (table index : Nat) :
    Prop where
  distance : ∃ n, NumberAt b 4 n table ∧ (table : Int) - signed32 n = index
  length : NumberAt b 2 (indexLength slots) index
  even : indexLength slots % 2 = 0
  room : index + indexLength slots ≤ b.size
  field : ∀ e ∈ slots, if e.1 + 2 ≤ indexLength slots then
      ∃ d, NumberAt b 2 d (index + e.1) ∧
        match e.2 with
        | none => d = 0
        | some field => d ≠ 0 ∧ field (table + d)
    else e.2 = none

/-- A table, given by what stands at each of its slots. -/
def TableAt (b : Buffer) (slots : List (Slot × Option (Nat → Prop))) (p : Nat) : Prop :=
  ∃ index, FieldsAt b slots p index

/-! ### The parts of a document -/

/-- The user that is written, which is none for user zero. -/
def writtenUser (user : UInt32) : Option UInt32 := if user = 0 then none else some user

/-- A user that is not written is zero. -/
lemma getD_writtenUser (user : UInt32) : (writtenUser user).getD 0 = user := by
  rw [writtenUser]
  split
  next hzero => exact hzero.symm
  next => rfl

/-- The table of a tag. -/
def TagAt (b : Buffer) (e : TagEntry Unit) : Nat → Prop :=
  TableAt b [(Slot.tagName, some (LinkAt b (TextAt b e.name))),
    (Slot.tagUser, (writtenUser e.user).map fun user => NumberAt b 4 user.toNat)]

/-- The table of an attribute value. -/
def KeyedValueAt (b : Buffer) (e : AttributeEntry Unit) : Nat → Prop :=
  TableAt b [(Slot.attributeKey, some (LinkAt b (TextAt b e.key))),
    (Slot.attributeValue, some (LinkAt b (TextAt b e.value))),
    (Slot.attributeUser, (writtenUser e.user).map fun user => NumberAt b 4 user.toNat)]

/-- The table of an image. -/
def ImageAt (b : Buffer) (i : ImageEntry Unit) : Nat → Prop :=
  TableAt b [(Slot.imageId, i.id.map fun id => NumberAt b 4 id.toNat),
    (Slot.imageHash, i.hash.map (HashAt b)),
    (Slot.imageTags, i.tags.map fun l => LinkAt b (TablesAt b (TagAt b) l)),
    (Slot.imageAttributes, i.attributes.map fun l => LinkAt b (TablesAt b (KeyedValueAt b) l))]

/-- The table of a member with these items. -/
def MemberAt (b : Buffer) (items : Nat → Prop) : Nat → Prop :=
  TableAt b [(Slot.items, some (LinkAt b items))]

/-- The root table of a response, whose member has a kind. -/
def RootAt (b : Buffer) (member : Option (UInt8 × (Nat → Prop))) : Nat → Prop :=
  TableAt b [(Slot.member, member.map fun m => LinkAt b (MemberAt b m.2)),
    (Slot.memberKind, member.map fun m => NumberAt b 1 m.1.toNat)]

/-- The member of a document with its kind: what stands where the items of the member are. -/
def Document.memberAt (b : Buffer) : Document Unit → Option (UInt8 × (Nat → Prop))
  | .nothing => none
  | .ids l => some (MemberKind.ids, ListAt b 4 (fun id => NumberAt b 4 id.toNat) l)
  | .hashes l => some (MemberKind.hashes, ListAt b ImageHash.size (HashAt b) l)
  | .images l => some (MemberKind.images, TablesAt b (ImageAt b) l)

/-- The response that carries a document: the distance to its root table stands in front. -/
def DocumentAt (b : Buffer) (document : Document Unit) : Prop :=
  LinkAt b (RootAt b (document.memberAt b)) 0

/-! ### What is read where it stands -/

namespace View

variable {b : Buffer} {p : Nat}

/-- A number is read. -/
lemma uint_of_numberAt {width n : Nat} (h : NumberAt b width n p) : uint b p width = .ok n := by
  rw [uint, h.2]

/-- A number of 32 bits is read. -/
lemma word_of_numberAt {n : UInt32} (h : NumberAt b 4 n.toNat p) : word b p = .ok n := by
  rw [word, uint_of_numberAt h]
  exact congrArg Except.ok n.ofNat_toNat

/-- A hash is read. -/
lemma hash_of_hashAt {h : ImageHash} (hp : HashAt b h p) : hash b p = .ok h := by
  have hread : ImageHash.ofBytes? h.bytes = some h := dif_pos h.length_bytes
  rw [hash, hp.2, hread]

/-- A distance leads where it leads. -/
lemma follow_of_linkAt {target : Nat → Prop} (h : LinkAt b target p) :
    ∃ q, follow b p = .ok q ∧ target q := by
  obtain ⟨n, hn, htarget⟩ := h
  refine ⟨p + n, ?_, htarget⟩
  rw [follow, uint_of_numberAt hn]
  rfl

/-- A text is read by its distance. -/
lemma text_of_linkAt {s : String} (h : LinkAt b (TextAt b s) p) : text b p = .ok s := by
  obtain ⟨q, hq, hs⟩ := follow_of_linkAt h
  simp only [text, hq, uint_of_numberAt hs.length, hs.bytes, bind, Except.bind, if_true,
    Utf8.decode?_encode]
  rfl

/-- Elements are read one after another. What is read of an element may say more than what stands
there, which `f` forgets. -/
lemma elements_of_forall {size : Nat} {read : Nat → Reads α} {f : α → β} {l : List β}
    (h : ∀ i (hi : i < l.length), ∃ a, read (p + i * size) = .ok a ∧ f a = l[i])
    (done : List α) :
    ∃ l', elements size read done p l.length = .ok (done.reverse ++ l') ∧ l'.map f = l := by
  induction l generalizing p done with
  | nil => exact ⟨[], by rw [List.append_nil]; rfl, rfl⟩
  | cons e l ih =>
    obtain ⟨a, ha, hfa⟩ := h 0 (by simp)
    rw [Nat.zero_mul, Nat.add_zero] at ha
    have hnext : ∀ i (hi : i < l.length), ∃ a, read (p + size + i * size) = .ok a ∧ f a = l[i] := by
      intro i hi
      obtain ⟨a, ha, hfa⟩ := h (i + 1) (by simpa using hi)
      rw [Nat.succ_mul, Nat.add_comm (i * size), ← Nat.add_assoc] at ha
      exact ⟨a, ha, by simpa using hfa⟩
    obtain ⟨l', hl', hmap⟩ := ih hnext (a :: done)
    refine ⟨a :: l', ?_, by rw [List.map_cons, hmap, hfa]; rfl⟩
    rw [List.reverse_cons, List.append_assoc, List.singleton_append] at hl'
    simp only [List.length_cons, elements, ha]
    exact hl'

/-- A list is read by its distance. -/
lemma list_of_linkAt {size : Nat} {element : β → Nat → Prop} {read : Nat → Reads α} {f : α → β}
    {l : List β} (h : LinkAt b (ListAt b size element l) p)
    (hread : ∀ e q, element e q → ∃ a, read q = .ok a ∧ f a = e) :
    ∃ l', list b size read p = .ok l' ∧ l'.map f = l := by
  obtain ⟨q, hq, hl⟩ := follow_of_linkAt h
  obtain ⟨l', hl', hmap⟩ := elements_of_forall (fun i hi => hread _ _ (hl.elements i hi)) []
  refine ⟨l', ?_, hmap⟩
  simp only [list, hq, bind, Except.bind, uint_of_numberAt hl.length]
  exact hl'

/-- A list of tables is read by its distance. -/
lemma tables_of_linkAt {table : β → Nat → Prop} {read : Nat → Reads α} {f : α → β} {l : List β}
    (h : LinkAt b (TablesAt b table l) p)
    (hread : ∀ e q, table e q → ∃ a, read q = .ok a ∧ f a = e) :
    ∃ l', tables b read p = .ok l' ∧ l'.map f = l := by
  refine list_of_linkAt h fun e q he => ?_
  obtain ⟨q', hq', he'⟩ := follow_of_linkAt he
  obtain ⟨a, ha, hfa⟩ := hread e q' he'
  refine ⟨a, ?_, hfa⟩
  rw [hq']
  exact ha

/-! ### Fields of a table -/

/-- The index of a table is found. -/
lemma index_of_fieldsAt {slots : List (Slot × Option (Nat → Prop))} {i : Nat}
    (h : FieldsAt b slots p i) : index b p = .ok i := by
  obtain ⟨n, hn, hindex⟩ := h.distance
  have hnonneg : ¬ (i : Int) < 0 := Int.not_lt.2 i.cast_nonneg
  simp only [index, uint_of_numberAt hn, bind, Except.bind, hindex, if_neg hnonneg]
  rfl

section

variable {slots : List (Slot × Option (Nat → Prop))} (h : TableAt b slots p) {slot : Slot}

include h

/-- A field that a table has is found. -/
lemma field_of_some {field : Nat → Prop} (hslot : (slot, some field) ∈ slots) :
    ∃ q, View.field b p slot = .ok (some q) ∧ field q := by
  obtain ⟨i, hi⟩ := h
  have hfield := hi.field _ hslot
  split at hfield
  next hend =>
    obtain ⟨d, hd, hne, hq⟩ := hfield
    refine ⟨p + d, ?_, hq⟩
    simp only [View.field, index_of_fieldsAt hi, bind, Except.bind, uint_of_numberAt hi.length,
      if_pos hend, uint_of_numberAt hd, if_neg hne]
    rfl
  next => cases hfield

/-- A field that a table lacks is not found. -/
lemma field_of_none (hslot : (slot, none) ∈ slots) : View.field b p slot = .ok none := by
  obtain ⟨i, hi⟩ := h
  have hfield := hi.field _ hslot
  split at hfield
  next hend =>
    obtain ⟨d, hd, rfl⟩ := hfield
    simp only [View.field, index_of_fieldsAt hi, bind, Except.bind, uint_of_numberAt hi.length,
      if_pos hend, uint_of_numberAt hd, if_true]
    rfl
  next hend =>
    simp only [View.field, index_of_fieldsAt hi, bind, Except.bind, uint_of_numberAt hi.length,
      if_neg hend]
    rfl

/-- What a table may have is read if the table has it. -/
lemma optional_of_map {γ : Type} {o : Option γ} {field : γ → Nat → Prop} {read : Nat → Reads α}
    {f : α → γ} (hslot : (slot, o.map field) ∈ slots)
    (hread : ∀ c q, field c q → ∃ a, read q = .ok a ∧ f a = c) :
    ∃ o', optional b p slot read = .ok o' ∧ o'.map f = o := by
  cases o with
  | none =>
    refine ⟨none, ?_, rfl⟩
    simp only [optional, field_of_none h hslot, bind, Except.bind]
    rfl
  | some c =>
    obtain ⟨q, hq, hc⟩ := field_of_some h hslot
    obtain ⟨a, ha, hfa⟩ := hread c q hc
    refine ⟨some a, ?_, congrArg some hfa⟩
    simp only [optional, hq, bind, Except.bind, ha]
    rfl

/-- What a table may have is read exactly. -/
lemma optional_eq (o : Option α) (field : α → Nat → Prop) {read : Nat → Reads α}
    (hslot : (slot, o.map field) ∈ slots) (hread : ∀ a q, field a q → read q = .ok a) :
    optional b p slot read = .ok o := by
  obtain ⟨o', ho', hmap⟩ :=
    optional_of_map h (f := id) hslot fun a q ha => ⟨a, hread a q ha, rfl⟩
  rw [Option.map_id, id] at hmap
  rwa [hmap] at ho'

/-- A text that a table has is read. -/
lemma optional_text (s : String) (hslot : (slot, some (LinkAt b (TextAt b s))) ∈ slots) :
    optional b p slot (text b) = .ok (some s) :=
  optional_eq h (some s) (fun s => LinkAt b (TextAt b s)) hslot fun _ _ => text_of_linkAt

/-- A number of 32 bits that a table may have is read. -/
lemma optional_word (o : Option UInt32)
    (hslot : (slot, o.map fun n => NumberAt b 4 n.toNat) ∈ slots) :
    optional b p slot (word b) = .ok o :=
  optional_eq h o (fun n => NumberAt b 4 n.toNat) hslot fun _ _ => word_of_numberAt

end

/-! ### Documents -/

/-- A tag is read where it stands. -/
lemma tag_of_tagAt {e : TagEntry Unit} (h : TagAt b e p) :
    ∃ a, tag b p = .ok a ∧ a.unplaced = e := by
  have hname := optional_text h e.name (.head _)
  have huser := optional_word h (writtenUser e.user) (.tail _ (.head _))
  refine ⟨⟨p, e.name, (writtenUser e.user).getD 0⟩, ?_, ?_⟩
  · simp only [tag, hname, huser, bind, Except.bind]
    rfl
  · rw [TagEntry.unplaced, getD_writtenUser]

/-- An attribute value is read where it stands. -/
lemma keyedValue_of_keyedValueAt {e : AttributeEntry Unit} (h : KeyedValueAt b e p) :
    ∃ a, keyedValue b p = .ok a ∧ a.unplaced = e := by
  have hkey := optional_text h e.key (.head _)
  have hvalue := optional_text h e.value (.tail _ (.head _))
  have huser := optional_word h (writtenUser e.user) (.tail _ (.tail _ (.head _)))
  refine ⟨⟨p, e.key, e.value, (writtenUser e.user).getD 0⟩, ?_, ?_⟩
  · simp only [keyedValue, hkey, hvalue, huser, bind, Except.bind]
    rfl
  · rw [AttributeEntry.unplaced, getD_writtenUser]

/-- An image is read where it stands. -/
lemma image_of_imageAt {i : ImageEntry Unit} (h : ImageAt b i p) :
    ∃ a, image b p = .ok a ∧ a.unplaced = i := by
  have hid := optional_word h i.id (.head _)
  have hhash : optional b p Slot.imageHash (hash b) = .ok i.hash :=
    optional_eq h i.hash (HashAt b) (.tail _ (.head _)) fun _ _ => hash_of_hashAt
  obtain ⟨tags, htags, hmapTags⟩ :=
    optional_of_map h (.tail _ (.tail _ (.head _))) fun _ _ hl =>
      tables_of_linkAt hl fun _ _ => tag_of_tagAt
  obtain ⟨attributes, hattributes, hmapAttributes⟩ :=
    optional_of_map h (.tail _ (.tail _ (.tail _ (.head _)))) fun _ _ hl =>
      tables_of_linkAt hl fun _ _ => keyedValue_of_keyedValueAt
  refine ⟨⟨i.id, i.hash, tags, attributes⟩, ?_, ?_⟩
  · simp only [image, hid, hhash, htags, hattributes, bind, Except.bind]
    rfl
  · rw [ImageEntry.unplaced, hmapTags, hmapAttributes]

/-- The items of a member are read where they stand. -/
lemma items_of_memberAt {items : Nat → Prop} {read : Nat → Reads (List α)} {f : α → β}
    {l : List β} (h : LinkAt b (MemberAt b items) p)
    (hread : ∀ q, LinkAt b items q → ∃ l', read q = .ok l' ∧ l'.map f = l) :
    ∃ l', View.items b read p = .ok l' ∧ l'.map f = l := by
  obtain ⟨q, hq, hmember⟩ := follow_of_linkAt h
  obtain ⟨q', hq', hitems⟩ := field_of_some hmember (List.mem_singleton_self _)
  obtain ⟨l', hl', hmap⟩ := hread q' hitems
  refine ⟨l', ?_, hmap⟩
  simp only [View.items, hq, bind, Except.bind, optional, hq', hl']
  rfl

/-- The walk over a response goes to its member if there is one. -/
lemma document_of_rootAt {kind : UInt8} {items : Nat → Prop}
    (h : LinkAt b (RootAt b (some (kind, items))) 0) :
    ∃ q, LinkAt b (MemberAt b items) q ∧ View.document b = memberOf b kind q := by
  obtain ⟨root, hroot, hfields⟩ := follow_of_linkAt h
  obtain ⟨q, hq, hmember⟩ := field_of_some hfields (.head _)
  obtain ⟨q', hq', hnumber⟩ := field_of_some hfields (.tail _ (.head _))
  exact ⟨q, hmember, document_eq hroot (memberKind_eq hq' (uint_of_numberAt hnumber)) hq⟩

/-- **A document is read where it stands**, apart from the places that are noted of its
entries. -/
lemma document_of_documentAt {document : Document Unit} (h : DocumentAt b document) :
    ∃ a, View.document b = .ok a ∧ a.unplaced = document := by
  cases document with
  | nothing =>
    obtain ⟨root, hroot, hfields⟩ := follow_of_linkAt h
    have hkind : View.field b root Slot.memberKind = .ok none :=
      field_of_none hfields (.tail _ (.head _))
    exact ⟨.nothing, document_eq_nothing hroot hkind, rfl⟩
  | ids l =>
    obtain ⟨q, hmember, hwalk⟩ := document_of_rootAt h
    obtain ⟨l', hl', hmap⟩ := items_of_memberAt (f := id) hmember fun q hq =>
      list_of_linkAt hq fun id _ hid => ⟨id, word_of_numberAt hid, rfl⟩
    rw [List.map_id] at hmap
    subst hmap
    refine ⟨.ids l', hwalk.trans ?_, rfl⟩
    rw [memberOf_ids, hl']
    rfl
  | hashes l =>
    obtain ⟨q, hmember, hwalk⟩ := document_of_rootAt h
    obtain ⟨l', hl', hmap⟩ := items_of_memberAt (f := id) hmember fun q hq =>
      list_of_linkAt hq fun g _ hg => ⟨g, hash_of_hashAt hg, rfl⟩
    rw [List.map_id] at hmap
    subst hmap
    refine ⟨.hashes l', hwalk.trans ?_, rfl⟩
    rw [memberOf_hashes, hl']
    rfl
  | images l =>
    obtain ⟨q, hmember, hwalk⟩ := document_of_rootAt h
    obtain ⟨l', hl', hmap⟩ := items_of_memberAt hmember fun q hq =>
      tables_of_linkAt hq fun _ _ => image_of_imageAt
    refine ⟨.images l', hwalk.trans ?_, congrArg Document.images hmap⟩
    rw [memberOf_images, hl']
    rfl

end View

end TagCatalog.Table
