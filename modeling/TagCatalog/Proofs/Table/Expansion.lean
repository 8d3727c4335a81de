import Mathlib.Tactic
import TagCatalog.Proofs.Table.RoundTrip
import TagCatalog.Proofs.Table.Visits
import TagCatalog.Proofs.Wire.Streaming

/-!
How much more a table response may say than it is long.

Distances of a response may lead to one table, or to one text, from many places, and what is read
of it is then kept as often. It is the checks that set a bound to this: they refer to each byte as
often as it is read, and may refer to so many bytes and no more, however long the response is. A
response that is written leads to each part once, and so is as long as what it says.

* `SearchResult.content`: what a result holds, in bytes; `content_le_of_toResult`: no more than its
  document.
* `Build.Takes`: an action that writes at least so many bytes; `takes_image`, `takes_document`: the
  parts of a document are written in as many bytes as they hold.
* `content_le_apparent`: what is read is within what the checks have referred to, and within the
  length of a response that is written.
* `sharedImage`: a response that says more than it is long.
-/

namespace TagCatalog

open OrderedMap (total_insert_add)

/-! ### What a result holds -/

/-- The record without its tags. -/
def ImageRecord.untagged (r : ImageRecord) : ImageRecord := { r with tags := none }

/-- What the records of a result hold apart from their tags, in bytes. -/
def SearchResult.content (r : SearchResult) : Nat :=
  (r.toRecords.map fun record => record.untagged.content).sum

/-- One more value adds no more than its text. -/
lemma valuesContent_insert_le (m : OrderedMap String UserId) (value : String) (user : UserId) :
    valuesContent (m.insert value user) ≤ valuesContent m + value.utf8ByteSize :=
  le_of_add_le_left
    (total_insert_add (fun v : String × UserId => v.1.utf8ByteSize) m value user).le

/-- One more value adds no more than its key and its text. -/
lemma AttributeMap.content_add_le (m : AttributeMap) (key value : String) (user : UserId) :
    (m.add key value user).content ≤ m.content + (key.utf8ByteSize + value.utf8ByteSize) := by
  have hsum : (m.add key value user).content + _ = m.content + _ :=
    total_insert_add (fun e => e.1.utf8ByteSize + valuesContent e.2) m key _
  have hvalues := valuesContent_insert_le ((m.get? key).getD ∅) value user
  cases hget : m.get? key with
  | none =>
    rw [hget, Option.getD_none] at hvalues
    rw [hget, Option.getD_none, Option.elim_none] at hsum
    have hempty : valuesContent ∅ = 0 := rfl
    dsimp only at hsum
    omega
  | some values =>
    rw [hget, Option.getD_some] at hvalues
    rw [hget, Option.getD_some, Option.elim_some] at hsum
    dsimp only at hsum
    omega

namespace Table

open Wire

variable {d : TagDictionary} {α β : Type}

/-- Values that are read one after another add no more than they hold. -/
lemma content_foldlM_le {l : List (AttributeEntry Nat)} {m m' : AttributeMap}
    (h : l.foldlM (fun m (e : AttributeEntry Nat) => do
      e.check
      return m.add e.key e.value e.user.toUInt64) m = .ok m') :
    m'.content ≤ m.content + (l.map AttributeEntry.content).sum := by
  induction l generalizing m with
  | nil =>
    cases h
    exact le_rfl
  | cons e l ih =>
    rw [List.foldlM_cons, bind_eq_ok_iff] at h
    obtain ⟨m₁, hstep, hrest⟩ := h
    obtain ⟨_, -, ⟨⟩⟩ := bind_eq_ok_iff.1 hstep
    have hadd := m.content_add_le e.key e.value e.user.toUInt64
    have hcontent := ih hrest
    rw [List.map_cons, List.sum_cons, AttributeEntry.content]
    omega

/-- A record holds no more than its image. -/
lemma content_le_of_resolve {i : ImageEntry Nat} {r : ImageRecord} (h : i.resolve d = .ok r) :
    r.untagged.content ≤ i.content := by
  obtain ⟨id, hash, tags, attributes⟩ := i
  obtain ⟨tags', -, h⟩ := bind_eq_ok_iff.1 h
  obtain ⟨attributes', hattributes, ⟨⟩⟩ := bind_eq_ok_iff.1 h
  rw [optionMapM_eq_ok_iff] at hattributes
  refine Nat.add_le_add le_rfl ?_
  dsimp only [ImageRecord.untagged]
  cases hattributes with
  | none => exact le_rfl
  | some hresolve =>
    have hcontent := content_foldlM_le hresolve
    rwa [show (∅ : AttributeMap).content = 0 from rfl, Nat.zero_add] at hcontent

/-- A result holds no more than its document. -/
lemma content_le_of_toResult {document : Document Nat} {r : SearchResult}
    (h : document.toResult d = .ok r) : r.content ≤ document.content := by
  have hconst {β : Type} (f : β → ImageRecord) (l : List β) {n : Nat}
      (hf : ∀ a, (f a).untagged.content = n) :
      ((l.map f).map fun record => record.untagged.content).sum = l.length * n := by
    simp [Function.comp_def, hf]
  cases document with
  | nothing =>
    cases h
    exact le_rfl
  | ids l =>
    cases h
    exact (hconst ImageRecord.ofId l fun _ => rfl).le
  | hashes l =>
    cases h
    exact (hconst ImageRecord.ofHash l fun _ => rfl).le
  | images l =>
    obtain ⟨records, hrecords, ⟨⟩⟩ := bind_eq_ok_iff.1 h
    rw [mapM_eq_ok_iff] at hrecords
    show (records.map fun record => record.untagged.content).sum ≤ (l.map ImageEntry.content).sum
    refine List.Forall₂.sum_le_sum ?_
    rw [List.forall₂_map_left_iff, List.forall₂_map_right_iff]
    exact hrecords.flip.imp fun _ _ => content_le_of_resolve

/-! ### How much is written -/

namespace Builder

variable {b : Builder} {n : Nat}

/-- Nothing is taken back for a multiple. -/
lemma used_le_align (size multiple : Nat) (b : Builder) : b.used ≤ (b.align size multiple).used :=
  used_le (grows_align size multiple b).suffix

/-- The bytes of a text are written. -/
lemma used_text_ge (s : String) (b : Builder) :
    b.used + s.utf8ByteSize ≤ (text s b).2.used := by
  have hbody : (Utf8.encode s ++ [0]).length = (Utf8.encode s).length + 1 := List.length_append
  have hcounted : (text s b).2.used = _ := used_counted (n := (Utf8.encode s).length) hbody b
  have halign := used_le_align ((Utf8.encode s).length + 1) 4 b
  rw [Utf8.length_encode] at hcounted
  rw [Utf8.length_encode] at halign
  omega

/-- The elements of a list are written. -/
lemma used_list_ge {size : Nat} {elements : List Bytes} (h : ∀ x ∈ elements, x.length = size)
    (b : Builder) : b.used + elements.length * size ≤ (list size elements b).2.used := by
  have hcounted : (list size elements b).2.used = _ :=
    used_counted (n := elements.length) (length_flatten_of_forall h) b
  have halign := used_le_align (elements.length * size) 4 b
  omega

/-- The bytes of a field's value. -/
def FieldValue.size : FieldValue → Nat
  | .number width _ => width
  | .hash _ => ImageHash.size
  | .mark _ => 4

/-- The value of a field is written. -/
lemma used_write_ge (value : FieldValue) (b : Builder) :
    b.used + value.size ≤ (value.write b).used := by
  cases value with
  | number width n =>
    rw [FieldValue.write, used_number, FieldValue.size]
    omega
  | hash h =>
    have halign := used_le_align ImageHash.size 1 b
    have hbytes : ((b.align ImageHash.size 1).prepend h.bytes).used = _ :=
      congrArg (· + (b.align ImageHash.size 1).used) h.length_bytes
    rw [FieldValue.write, hbytes]
    exact (Nat.add_comm _ _).trans_le (Nat.add_le_add_left halign _)
  | mark m =>
    rw [FieldValue.write, used_distance, FieldValue.size]
    omega

/-- The values of fields are written one after another. -/
lemma used_fields_ge (content : List (Slot × FieldValue)) (b : Builder) :
    b.used + (content.map fun f => f.2.size).sum ≤ (fields content b).2.used := by
  induction content generalizing b with
  | nil => exact le_rfl
  | cons f content ih =>
    have hwrite := used_write_ge f.2 b
    have hrest := ih (f.2.write b)
    rw [List.map_cons, List.sum_cons]
    exact le_trans (by omega) hrest

/-- A table is written with its fields. -/
lemma used_table_ge (content : List (Slot × FieldValue)) (b : Builder) :
    b.used + (content.map fun f => f.2.size).sum ≤ (table content b).2.used := by
  refine (used_fields_ge content b).trans ?_
  rw [table]
  generalize fields content b = result
  obtain ⟨noted, last⟩ := result
  have halign := used_le_align 4 4 last
  dsimp only
  split
  next => exact halign.trans (used_le (grows_prepend _ _).suffix)
  next =>
    exact halign.trans ((used_le (grows_prepend _ _).suffix).trans
      (used_le (grows_prepend _ _).suffix))

end Builder

namespace Build

open Builder

/-- An action that writes at least so many bytes. -/
def Takes (act : Build α) (n : Nat) : Prop := ∀ b, b.used + n ≤ (act b).2.used

variable {act : Build α} {n m : Nat}

/-- What only answers writes nothing. -/
lemma takes_pure (a : α) : Takes (pure a) 0 := fun _ => le_rfl

/-- What is written one after another adds up. -/
lemma Takes.bind {next : α → Build β} (h : Takes act n) (hnext : ∀ a, Takes (next a) m) :
    Takes (act >>= next) (n + m) := by
  intro b
  have hfirst := h b
  have hrest := hnext (act b).1 (act b).2
  exact le_trans (by omega) hrest

/-- Less may be reckoned with. -/
lemma Takes.mono (h : Takes act n) (hle : m ≤ n) : Takes act m :=
  fun b => (Nat.add_le_add_left hle _).trans (h b)

section

variable {write : α → Build Mark} {size : α → Nat} (h : ∀ a, Takes (write a) (size a))

include h

/-- Things are written one after another. -/
lemma takes_mapM (l : List α) : Takes (l.mapM write) (l.map size).sum := by
  induction l with
  | nil => exact takes_pure []
  | cons a l ih =>
    rw [List.mapM_cons, List.map_cons, List.sum_cons]
    exact (h a).bind fun _ => ih.bind fun _ => takes_pure _

/-- A list of tables is written. -/
lemma takes_tables (l : List α) : Takes (tables write l) (l.map size).sum :=
  (takes_mapM h l).bind (m := 0) fun marks b => used_le (grows_marks marks b).suffix

/-- What may be there is written if it is. -/
lemma takes_optional (o : Option α) : Takes (o.mapM write) (o.elim 0 size) := by
  cases o with
  | none => exact takes_pure none
  | some a => exact (h a).bind (m := 0) fun _ => takes_pure _

end

/-- A text is written. -/
lemma takes_text (s : String) : Takes (Builder.text s) s.utf8ByteSize := used_text_ge s

/-- A table is written with its fields. -/
lemma takes_table (content : List (Slot × FieldValue)) :
    Takes (Builder.table content) (content.map fun f => f.2.size).sum := used_table_ge content

/-- A tag is written. -/
lemma takes_tag (e : TagEntry Unit) : Takes (tag e) 0 := by
  refine Takes.mono ?_ (Nat.zero_le (e.name.utf8ByteSize + 0))
  exact (takes_text e.name).bind fun _ => (takes_table _).mono (Nat.zero_le _)

/-- An attribute value is written with its key and its text. -/
lemma takes_keyedValue (e : AttributeEntry Unit) : Takes (keyedValue e) e.content := by
  refine (takes_text e.key).bind fun _ => ?_
  exact (takes_text e.value).bind (m := 0) fun _ => (takes_table _).mono (Nat.zero_le _)

/-- An image is written with all that it holds. -/
lemma takes_image (i : ImageEntry Unit) : Takes (image i) i.content := by
  have htags : Takes (i.tags.mapM (tables tag)) 0 :=
    (takes_optional (takes_tables takes_tag) i.tags).mono (Nat.zero_le _)
  have hattributes := takes_optional (takes_tables takes_keyedValue) i.attributes
  refine (htags.bind fun tags => hattributes.bind fun attributes =>
    (takes_table _).mono (m := i.id.elim 0 (fun _ => FieldList.idWidth) +
      i.hash.elim 0 fun _ => ImageHash.size) ?_).mono ?_
  · simp only [List.map_append, List.sum_append]
    refine le_add_right (le_add_right (Nat.add_le_add ?_ ?_))
    · cases i.id <;> exact le_rfl
    · cases i.hash <;> exact le_rfl
  · rw [ImageEntry.content, Nat.zero_add, Nat.add_comm]

/-- A member and its root table are written around their items. -/
lemma takes_items {items : Build Mark} (h : Takes items n) (kind : UInt8) :
    Takes (do root kind (← member (← items))) n := by
  refine h.bind (m := 0) fun marks => ?_
  exact ((takes_table _).mono (Nat.zero_le _)).bind (m := 0) fun _ =>
    (takes_table _).mono (Nat.zero_le _)

/-- Elements of one width are written. -/
lemma takes_list {size : Nat} {elements : List Bytes} (h : ∀ x ∈ elements, x.length = size) :
    Takes (Builder.list size elements) (elements.length * size) := used_list_ge h

/-- A document is written with all that it holds. -/
lemma takes_document (document : Document Unit) :
    Takes (Build.document document) document.content := by
  cases document with
  | nothing => exact (takes_table _).mono (Nat.zero_le _)
  | ids l =>
    have hwidth : ∀ x ∈ l.map fun id => LittleEndian.encode 4 id.toNat, x.length = 4 :=
      List.forall_mem_map.2 fun _ _ => LittleEndian.length_encode _ _
    have hlist := takes_list hwidth
    rw [List.length_map] at hlist
    exact takes_items hlist MemberKind.ids
  | hashes l =>
    have hwidth : ∀ x ∈ l.map (·.bytes), x.length = ImageHash.size :=
      List.forall_mem_map.2 fun h _ => h.length_bytes
    have hlist := takes_list hwidth
    rw [List.length_map] at hlist
    exact takes_items hlist MemberKind.hashes
  | images l => exact takes_items (takes_tables takes_image l) MemberKind.images

end Build

/-- A response is finished behind all that is written. -/
lemma Builder.used_le_length_finish (root : Mark) (b : Builder) :
    b.used ≤ (b.finish root).length := by
  have hfinish : b.used ≤ ((b.align 4 b.alignment).distance root).used :=
    (used_le_align 4 b.alignment b).trans (used_le (grows_distance root _).suffix)
  exact hfinish.trans_eq (used_eq _)

/-- A response that is written is as long as what it says. -/
lemma content_le_length_encode (document : Document Unit) :
    document.content ≤ document.encode.length := by
  have hdocument := Build.takes_document document Builder.empty
  refine le_trans ?_ (Builder.used_le_length_finish _ _)
  exact (Nat.zero_add _).ge.trans hdocument

/-! ### Responses -/

/-- An image holds the same wherever its entries stand. -/
lemma ImageEntry.content_unplaced (i : ImageEntry Nat) : i.unplaced.content = i.content := by
  obtain ⟨id, hash, tags, attributes⟩ := i
  cases attributes with
  | none => rfl
  | some l =>
    have hsum : ((l.map AttributeEntry.unplaced).map AttributeEntry.content).sum =
        (l.map AttributeEntry.content).sum := by
      rw [List.map_map]
      rfl
    exact congrArg (id.elim 0 (fun _ => FieldList.idWidth) +
      hash.elim 0 (fun _ => ImageHash.size) + ·) hsum

/-- A document holds the same wherever its entries stand. -/
lemma Document.content_unplaced (document : Document Nat) :
    document.unplaced.content = document.content := by
  cases document with
  | nothing | ids l | hashes l => rfl
  | images l =>
    show ((l.map ImageEntry.unplaced).map ImageEntry.content).sum = (l.map ImageEntry.content).sum
    rw [List.map_map]
    exact congrArg List.sum (List.map_congr_left fun i _ => i.content_unplaced)

/-- **What is read has been referred to.** Of a response that is read, whoever has written it, the
result holds no more bytes than the checks have referred to, which count each byte as often as it is
referred to and refuse to go beyond the limit for the length of responses. If the response has been
written as that of any result, then the result that is read holds no more bytes than the response
has. -/
theorem content_le_apparent (d : TagDictionary) {b : Bytes} {r : SearchResult}
    (h : decodeResponse d b = .ok r) :
    (∃ spent, Check.response b.toArray ⟨0, 0⟩ = .ok ((), spent) ∧
      r.content ≤ spent.apparent ∧ spent.apparent ≤ maxResponseSize) ∧
    ∀ d' r', encodeResponse d' r' = .ok b → r.content ≤ b.length := by
  obtain ⟨hsize, hverify, document, hdocument, hresult⟩ := decodeResponse_eq_ok_iff.1 h
  have hcontent := content_le_of_toResult hresult
  constructor
  · obtain ⟨spent, hcheck⟩ := verify_eq_ok_iff.1 hverify
    obtain ⟨hle, -, hfits⟩ := weight_le_of_response hcheck hdocument
    exact ⟨spent, hcheck, hcontent.trans hle, hfits.1⟩
  · intro d' r' hencode
    obtain ⟨written, -, rfl⟩ := encodeResponse_eq_ok_iff.1 hencode
    obtain ⟨read, hread, rfl⟩ := View.document_of_documentAt (documentAt_encode hsize)
    obtain rfl : read = document := Except.ok.inj (hread.symm.trans hdocument)
    rw [← Document.content_unplaced] at hcontent
    exact hcontent.trans (content_le_length_encode _)

/-- An image with an id and an attribute is read from a response that is longer than that. -/
theorem content_le_apparent_oneAttribute :
    let r : SearchResult :=
      .images [⟨some 7, none, none, some (AttributeMap.add ∅ "color" "red" 4)⟩]
    ∃ b, encodeResponse ∅ r = .ok b ∧ decodeResponse ∅ b = .ok r ∧ r.content = 12 ∧
      (∃ spent, Check.response b.toArray ⟨0, 0⟩ = .ok ((), spent) ∧ 12 ≤ spent.apparent) ∧
      12 ≤ b.length := by
  intro r
  let document : Document Unit := .images [⟨some 7, none, none, some [⟨(), "color", "red", 4⟩]⟩]
  have hencode : encodeResponse ∅ r = .ok document.encode :=
    encodeResponse_eq_ok_iff.2 ⟨document, by decide +kernel, rfl⟩
  have hdecode : decodeResponse ∅ document.encode = .ok r := by decide +kernel
  have hcontent : r.content = 12 := by decide +kernel
  obtain ⟨⟨spent, hcheck, hle, -⟩, hlength⟩ := content_le_apparent ∅ hdecode
  rw [hcontent] at hle hlength
  exact ⟨_, hencode, hdecode, hcontent, ⟨spent, hcheck, hle⟩, hlength ∅ r hencode⟩

/-- A response of four images that are all one, which has a hash. -/
def sharedImage : Bytes :=
  -- the way to the root; the index of the root and of the member; the index of the image
  [20, 0, 0, 0] ++ [8, 0, 12, 0, 4, 0, 8, 0] ++ [8, 0, 36, 0, 0, 0, 4, 0] ++
    -- the root with the kind of the member, and the member
    [16, 0, 0, 0, 3, 0, 0, 0, 4, 0, 0, 0] ++ [28, 0, 0, 0, 4, 0, 0, 0] ++
    -- the number of images, and the way from each of their places to the one image
    [4, 0, 0, 0] ++ [16, 0, 0, 0, 12, 0, 0, 0, 8, 0, 0, 0, 4, 0, 0, 0] ++
    -- the image with its hash
    [48, 0, 0, 0] ++ List.replicate 32 42

/-- The one image is read four times, with its hash each time. -/
theorem sharedImage_expands :
    ∃ r, decodeResponse ∅ sharedImage = .ok r ∧ r.content = 128 ∧ sharedImage.length = 96 :=
  ⟨.images (List.replicate 4 ⟨none, some ⟨List.replicate 32 42, by decide⟩, none, none⟩),
    by decide +kernel, by decide +kernel, by decide +kernel⟩

end Table

end TagCatalog
