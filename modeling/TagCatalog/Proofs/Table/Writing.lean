import Mathlib.Tactic
import TagCatalog.Proofs.Table.Assembly

/-!
A written document stands in its bytes.

* `Build.Writes`: a writer whose mark leads to what it writes, whatever is written in front.
* `Build.writes_tag`, `writes_keyedValue`, `writes_image`, `writes_document`: the writers of the
  parts of a document.
* `documentAt_encode`: a document stands in what it is encoded to.
-/

namespace TagCatalog.Table

open Wire

variable {α : Type}

namespace Build

open Builder

/-- A writer whose mark leads to what it writes. -/
def Writes (act : Build Mark) (P : Buffer → Nat → Prop) : Prop :=
  ∀ b : Builder, b.Sound → b.Grows (act b).2 ∧ (act b).2.Kept (act b).1 P

variable {b : Builder} {P : Buffer → Nat → Prop}

/-- A text is written. -/
lemma writes_text (s : String) : Writes (Builder.text s) fun buffer => TextAt buffer s :=
  fun b _ => ⟨grows_text s b, kept_text s b⟩

/-- A list is written. -/
lemma writes_list {size : Nat} (hsize : 0 < size) (hwhole : size % 4 = 0) {l : List α}
    {bytes : α → Bytes} {element : Buffer → α → Nat → Prop} (hbytes : ∀ a, (bytes a).length = size)
    (helement : ∀ buffer a p, p % 4 = 0 → buffer.Has p (bytes a) → element buffer a p) :
    Writes (Builder.list size (l.map bytes)) fun buffer =>
      ListAt buffer size (element buffer) l :=
  fun b _ => ⟨grows_list size _ b, kept_list hsize hwhole hbytes helement b⟩

section

variable {write : α → Build Mark} {table : Buffer → α → Nat → Prop}
  (hwrite : ∀ a, Writes (write a) fun buffer => table buffer a)

include hwrite

/-- Things are written one after another. -/
lemma mapM_spec (l : List α) (hb : b.Sound) :
    b.Grows (l.mapM write b).2 ∧
    List.Forall₂ (fun m a => (l.mapM write b).2.Kept m fun buffer => table buffer a)
      (l.mapM write b).1 l := by
  induction l generalizing b with
  | nil => exact ⟨.refl b, .nil⟩
  | cons a l ih =>
    obtain ⟨hgrows, hkept⟩ := hwrite a b hb
    obtain ⟨hrest, hmarks⟩ := ih (hgrows.sound hb)
    rw [List.mapM_cons]
    exact ⟨hgrows.trans hrest, .cons (hkept.of_suffix hrest.suffix) hmarks⟩

/-- A list of tables is written. -/
lemma writes_tables (l : List α) :
    Writes (tables write l) fun buffer => TablesAt buffer (table buffer) l := by
  intro b hb
  obtain ⟨hgrows, hmarks⟩ := mapM_spec hwrite l hb
  exact ⟨hgrows.trans (grows_marks _ _), kept_marks hmarks⟩

/-- Something that may be there is written if it is, so that a field may lead to it. -/
lemma optional_spec (o : Option α) (hb : b.Sound) :
    b.Grows (o.mapM write b).2 ∧ ∃ c : Option Content,
      (o.mapM write b).1.map FieldValue.mark = c.map Content.value ∧
      (∀ buffer, (c.map fun x => x.stands buffer) = o.map fun a => LinkAt buffer (table buffer a)) ∧
      ∀ x ∈ c, x.value.Means (o.mapM write b).2 x.stands := by
  cases o with
  | none => exact ⟨.refl b, none, rfl, fun _ => rfl, fun x hx => by cases hx⟩
  | some a =>
    obtain ⟨hgrows, hkept⟩ := hwrite a b hb
    refine ⟨hgrows, some ⟨_, _⟩, rfl, fun _ => rfl, ?_⟩
    rintro _ ⟨⟩
    exact .mark hkept

end

/-! ### Fields -/

/-- A number of 32 bits in a field. -/
def word (n : UInt32) : Content := ⟨.number 4 n.toNat, fun buffer => NumberAt buffer 4 n.toNat⟩

/-- A distance in a field. -/
def link (m : Mark) (target : Buffer → Nat → Prop) : Content :=
  ⟨.mark m, fun buffer => LinkAt buffer (target buffer)⟩

/-- A hash in a field. -/
def hash (h : ImageHash) : Content := ⟨.hash h, fun buffer => HashAt buffer h⟩

/-- A number of 32 bits, if there is one, is what stands there. -/
lemma means_word (o : Option UInt32) : ∀ c ∈ o.map word, c.value.Means b c.stands := by
  intro c hc
  obtain ⟨n, -, rfl⟩ := Option.map_eq_some_iff.1 hc
  exact .number (by decide) n.toNat_lt

/-- A hash, if there is one, is what stands there. -/
lemma means_hash (o : Option ImageHash) : ∀ c ∈ o.map hash, c.value.Means b c.stands := by
  intro c hc
  obtain ⟨h, -, rfl⟩ := Option.map_eq_some_iff.1 hc
  exact .hash h

/-- A distance to a mark leads to what stands there. -/
lemma means_link {m : Mark} (h : b.Kept m P) : ∀ c ∈ some (link m P), c.value.Means b c.stands := by
  rintro _ ⟨⟩
  exact .mark h

/-- A user is written if not zero. -/
lemma userField_eq (slot : Slot) (user : UInt32) :
    userField slot user = values (written [(slot, (writtenUser user).map word)]) := by
  rw [userField, writtenUser]
  split <;> rfl

/-- What stands at the slot of a user. -/
lemma map_stands_word (buffer : Buffer) (o : Option UInt32) :
    ((o.map word).map fun c => c.stands buffer) = o.map fun n => NumberAt buffer 4 n.toNat :=
  Option.map_map _ _ _

/-- A table is written with the fields that it is given. -/
lemma table_writes (entries : List (Slot × Option Content)) {result : Mark × Builder}
    {slots : Buffer → List (Slot × Option (Nat → Prop))} (hslots : Slots (entries.map Prod.fst))
    (hentries : entries.Forall fun e => ∀ c ∈ e.2, c.value.Means b c.stands)
    (hresult : result = Builder.table (values (written entries)) b)
    (hlayout : ∀ buffer, layout buffer entries = slots buffer) (hb : b.Sound) :
    b.Grows result.2 ∧ result.2.Kept result.1 fun buffer => TableAt buffer (slots buffer) := by
  obtain ⟨hgrows, hkept⟩ := table_spec hslots hb hentries
  subst hresult
  exact ⟨hgrows, by simpa only [hlayout] using hkept⟩

/-! ### The parts of a document -/

/-- The table of a tag is written behind its name. -/
lemma tag_eq (e : TagEntry Unit) (b : Builder) : tag e b =
    Builder.table ((Slot.tagName, .mark (Builder.text e.name b).1) ::
      userField Slot.tagUser e.user) (Builder.text e.name b).2 :=
  rfl

/-- A tag is written. -/
lemma writes_tag (e : TagEntry Unit) : Writes (tag e) fun buffer => TagAt buffer e := by
  intro b hb
  obtain ⟨hname, hkept⟩ := writes_text e.name b hb
  have htable : (Builder.text e.name b).2.Grows (tag e b).2 ∧
      (tag e b).2.Kept (tag e b).1 fun buffer => TagAt buffer e := by
    refine table_writes ([(Slot.tagName, some (link _ _)),
      (Slot.tagUser, (writtenUser e.user).map word)])
      (show Slots [Slot.tagName, Slot.tagUser] by decide) ⟨means_link hkept, means_word _⟩ ?_
      (fun buffer => ?_) (hname.sound hb)
    · rw [tag_eq, userField_eq]
      rfl
    · simp only [layout, List.map_cons, List.map_nil, map_stands_word]
      rfl
  exact ⟨hname.trans htable.1, htable.2⟩

/-- The table of an attribute value is written behind its texts. -/
lemma keyedValue_eq (e : AttributeEntry Unit) (b : Builder) : keyedValue e b =
    Builder.table ((Slot.attributeKey, .mark (Builder.text e.key b).1) ::
      (Slot.attributeValue, .mark (Builder.text e.value (Builder.text e.key b).2).1) ::
      userField Slot.attributeUser e.user) (Builder.text e.value (Builder.text e.key b).2).2 :=
  rfl

/-- An attribute value is written. -/
lemma writes_keyedValue (e : AttributeEntry Unit) :
    Writes (keyedValue e) fun buffer => KeyedValueAt buffer e := by
  intro b hb
  obtain ⟨hkey, hkeptKey⟩ := writes_text e.key b hb
  obtain ⟨hvalue, hkeptValue⟩ := writes_text e.value _ (hkey.sound hb)
  have htable : (Builder.text e.value (Builder.text e.key b).2).2.Grows (keyedValue e b).2 ∧
      (keyedValue e b).2.Kept (keyedValue e b).1 fun buffer => KeyedValueAt buffer e := by
    refine table_writes ([(Slot.attributeKey, some (link _ _)),
      (Slot.attributeValue, some (link _ _)), (Slot.attributeUser, (writtenUser e.user).map word)])
      (show Slots [Slot.attributeKey, Slot.attributeValue, Slot.attributeUser] by decide)
      ⟨means_link (hkeptKey.of_suffix hvalue.suffix), means_link hkeptValue, means_word _⟩ ?_
      (fun buffer => ?_) (hvalue.sound (hkey.sound hb))
    · rw [keyedValue_eq, userField_eq]
      rfl
    · simp only [layout, List.map_cons, List.map_nil, map_stands_word]
      rfl
  exact ⟨hkey.trans (hvalue.trans htable.1), htable.2⟩

/-- The fields of which some may lack, one slot after another. -/
lemma values_written (entries : List (Slot × Option Content)) :
    values (written entries) =
      entries.flatMap fun e => ((e.2.map Content.value).map (e.1, ·)).toList := by
  induction entries with
  | nil => rfl
  | cons e entries ih =>
    obtain ⟨slot, o⟩ := e
    rw [List.flatMap_cons, ← ih]
    cases o <;> rfl

/-- The table of an image is written behind its tags and attributes. -/
lemma image_eq (e : ImageEntry Unit) (b : Builder) : image e b =
    Builder.table
      (((e.id.map fun id => .number 4 id.toNat).map (Slot.imageId, ·)).toList ++
        ((e.hash.map .hash).map (Slot.imageHash, ·)).toList ++
        (((e.tags.mapM (tables tag) b).1.map .mark).map (Slot.imageTags, ·)).toList ++
        (((e.attributes.mapM (tables keyedValue) (e.tags.mapM (tables tag) b).2).1.map .mark).map
          (Slot.imageAttributes, ·)).toList)
      (e.attributes.mapM (tables keyedValue) (e.tags.mapM (tables tag) b).2).2 :=
  rfl

/-- An image is written. -/
lemma writes_image (e : ImageEntry Unit) : Writes (image e) fun buffer => ImageAt buffer e := by
  intro b hb
  obtain ⟨hgrows, tags, htags, hlayoutTags, hmeansTags⟩ :=
    optional_spec (writes_tables writes_tag) e.tags hb
  obtain ⟨hgrows', attributes, hattributes, hlayoutAttributes, hmeansAttributes⟩ :=
    optional_spec (writes_tables writes_keyedValue) e.attributes (hgrows.sound hb)
  have htable : (e.attributes.mapM (tables keyedValue) (e.tags.mapM (tables tag) b).2).2.Grows
      (image e b).2 ∧ (image e b).2.Kept (image e b).1 fun buffer => ImageAt buffer e := by
    refine table_writes ([(Slot.imageId, e.id.map word),
      (Slot.imageHash, e.hash.map hash), (Slot.imageTags, tags),
      (Slot.imageAttributes, attributes)])
      (show Slots [Slot.imageId, Slot.imageHash, Slot.imageTags, Slot.imageAttributes] by decide)
      ⟨means_word _, means_hash _, fun c hc => (hmeansTags c hc).of_suffix hgrows'.suffix,
        hmeansAttributes⟩ ?_ (fun buffer => ?_) (hgrows'.sound (hgrows.sound hb))
    · rw [image_eq, htags, hattributes, values_written, List.append_assoc, List.append_assoc]
      simp only [List.flatMap_cons, List.flatMap_nil, List.append_nil, Option.map_map]
      rfl
    · simp only [layout, List.map_cons, List.map_nil, hlayoutTags, hlayoutAttributes,
        Option.map_map]
      rfl
  exact ⟨hgrows.trans (hgrows'.trans htable.1), htable.2⟩

/-- A member is written around its items. -/
lemma member_writes {items : Mark} (h : b.Kept items P) (hb : b.Sound) :
    b.Grows (member items b).2 ∧
    (member items b).2.Kept (member items b).1 fun buffer => MemberAt buffer (P buffer) :=
  table_writes ([(Slot.items, some (link items P))]) (show Slots [Slot.items] by decide)
    (means_link h) rfl (fun _ => rfl) hb

/-- The root table of a member is written. -/
lemma root_writes {kind : UInt8} (hkind : kind ≠ MemberKind.nothing) {data : Mark}
    (h : b.Kept data fun buffer => MemberAt buffer (P buffer)) (hb : b.Sound) :
    b.Grows (root kind data b).2 ∧
    (root kind data b).2.Kept (root kind data b).1 fun buffer =>
      RootAt buffer (some (kind, P buffer)) := by
  refine table_writes ([(Slot.member, some (link data _)),
    (Slot.memberKind, some ⟨.number 1 kind.toNat, fun buffer => NumberAt buffer 1 kind.toNat⟩)])
    (show Slots [Slot.member, Slot.memberKind] by decide) ⟨means_link h, ?_⟩ ?_ (fun _ => rfl) hb
  · rintro _ ⟨⟩
    exact .number (by decide) kind.toNat_lt
  · rw [root, if_neg hkind]
    rfl

/-- A document with items is written as its items, the member around them and the root. -/
lemma writes_items {items : Build Mark} (h : Writes items P) {kind : UInt8}
    (hkind : kind ≠ MemberKind.nothing) :
    Writes (do root kind (← member (← items))) fun buffer =>
      RootAt buffer (some (kind, P buffer)) := by
  intro b hb
  obtain ⟨hitems, hkept⟩ := h b hb
  obtain ⟨hmember, hkeptMember⟩ := member_writes hkept (hitems.sound hb)
  obtain ⟨hroot, hkeptRoot⟩ := root_writes hkind hkeptMember (hmember.sound (hitems.sound hb))
  exact ⟨hitems.trans (hmember.trans hroot), hkeptRoot⟩

/-- The root table of a document is written. -/
lemma writes_document (d : Document Unit) :
    Writes (document d) fun buffer => RootAt buffer (d.memberAt buffer) := by
  cases d with
  | nothing =>
    intro b hb
    exact table_writes ([(Slot.member, none), (Slot.memberKind, none)])
      (show Slots [Slot.member, Slot.memberKind] by decide) ⟨nofun, nofun⟩ rfl (fun _ => rfl) hb
  | ids l =>
    refine writes_items
      (P := fun buffer => ListAt buffer 4 (fun id => NumberAt buffer 4 id.toNat) l)
      (writes_list (by decide) rfl (fun _ => LittleEndian.length_encode 4 _) ?_)
      (show MemberKind.ids ≠ MemberKind.nothing by decide)
    exact fun buffer id p hp hhas => .of_has hp hhas id.toNat_lt
  | hashes l =>
    refine writes_items (P := fun buffer => ListAt buffer ImageHash.size (HashAt buffer) l)
      (writes_list (by decide) rfl ImageHash.length_bytes ?_)
      (show MemberKind.hashes ≠ MemberKind.nothing by decide)
    exact fun buffer h p _ hhas => .of_has hhas
  | images l =>
    exact writes_items (writes_tables writes_image l)
      (show MemberKind.images ≠ MemberKind.nothing by decide)

end Build

/-- The root table stands where the distance in front of a finished response leads. -/
lemma Builder.linkAt_finish {b : Builder} {root : Nat} {P : Buffer → Nat → Prop}
    (h : b.Kept root P) (hsize : (b.finish root).length ≤ maxResponseSize) :
    LinkAt (b.finish root).toArray (P (b.finish root).toArray) 0 := by
  have hkept := kept_distance (h.of_suffix (grows_align 4 b.alignment b).suffix)
  set last := (b.align 4 b.alignment).distance root with hlast
  have hwhole : last.used % 4 = 0 := by
    have hmod := padding_mod (b.align 4 b.alignment).used 4 4 (by decide)
    rw [hlast, used_distance]
    omega
  have hused : last.bytes.toArray.size = last.used := by rw [List.size_toArray, last.used_eq]
  have hstands := hkept.stands last.bytes.toArray
    ⟨List.suffix_refl _, by rw [hused, hwhole], by rwa [List.size_toArray]⟩
  rwa [hused, Nat.sub_self] at hstands

/-- **A document stands in what it is encoded to**, if that is no longer than a response may be. -/
lemma documentAt_encode {document : Document Unit}
    (h : document.encode.length ≤ maxResponseSize) :
    DocumentAt document.encode.toArray document := by
  obtain ⟨-, hkept⟩ := Build.writes_document document Builder.empty (fun e he => by cases he)
  exact Builder.linkAt_finish hkept h

end TagCatalog.Table
