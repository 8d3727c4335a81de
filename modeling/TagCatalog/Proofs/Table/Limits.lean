import Mathlib.Tactic
import TagCatalog.Proofs.Table.Rewriting

/-!
The limits on what is read back.

A response that is not too long may still be refused, because the checks of it visit too many tables
or refer to too many bytes. Images without fields reach the limit on tables first.

* `Builder.Adds`: how many bytes are written at most; `adds_table` and `adds_marks` are the steps.
* `length_encode_bareImages_le`: images without fields are written in a few bytes each.
* `decodes_iff_within_limits`: a result that is written is read back exactly if the tables that it
  takes and the bytes that its checks refer to are within the limits.
* `bareImages_refused`: a result that is written in few bytes and not read back.
-/

namespace TagCatalog.Table

open Wire

/-! ### How much is written -/

namespace Builder

variable {b b' b'' : Builder} {n m : Nat}

/-- At most so many bytes have been written, and none that has to stand at a multiple above
four. -/
structure Adds (n : Nat) (b b' : Builder) : Prop where
  used : b'.used ≤ b.used + n
  alignment : b.alignment ≤ 4 → b'.alignment ≤ 4

/-- Nothing has been written. -/
lemma Adds.refl (b : Builder) : Adds 0 b b := ⟨le_rfl, id⟩

/-- What is written one after another adds up. -/
lemma Adds.trans (h : Adds n b b') (h' : Adds m b' b'') : Adds (n + m) b b'' where
  used := by
    have hn := h.used
    have hm := h'.used
    omega
  alignment := h'.alignment ∘ h.alignment

/-- More may be allowed for. -/
lemma Adds.mono (h : Adds n b b') (hle : n ≤ m) : Adds m b b' :=
  ⟨h.used.trans (Nat.add_le_add_left hle _), h.alignment⟩

/-- Bytes are written in front. -/
lemma adds_prepend (front : Bytes) (b : Builder) : Adds front.length b (b.prepend front) :=
  ⟨(Nat.add_comm _ _).le, id⟩

/-- Few zero bytes are needed for a small multiple. -/
lemma padding_le (used size : Nat) {multiple : Nat} (h : multiple ≤ 4) :
    padding used size multiple ≤ 3 := by
  rcases Nat.eq_zero_or_pos multiple with rfl | hpos
  · rw [padding, Nat.zero_sub, Nat.mod_zero]
    exact Nat.zero_le 3
  · have hlt := padding_lt used size multiple hpos
    omega

/-- A multiple is reached. -/
lemma adds_align (size : Nat) {multiple : Nat} (h : multiple ≤ 4) (b : Builder) :
    Adds 3 b (b.align size multiple) where
  used := by
    have hle := padding_le b.used size h
    rw [used_align]
    omega
  alignment hb := max_le hb h

/-- A number is written. -/
lemma adds_number {width : Nat} (h : width ≤ 4) (k : Nat) (b : Builder) :
    Adds (3 + width) b (b.number width k) := by
  have hbytes := adds_prepend (LittleEndian.encode width k) (b.align width width)
  rw [LittleEndian.length_encode] at hbytes
  exact (adds_align width h b).trans hbytes

/-- A distance is written. -/
lemma adds_distance (mark : Mark) (b : Builder) : Adds 7 b (b.distance mark) := by
  have hbytes := adds_prepend
    (LittleEndian.encode 4 ((b.align 4 4).used + 4 - mark)) (b.align 4 4)
  rw [LittleEndian.length_encode] at hbytes
  exact (adds_align 4 le_rfl b).trans hbytes

/-- A list of distances is written. -/
lemma adds_marks (marks : List Mark) (b : Builder) :
    Adds (marks.length * 4 + 10) b (Builder.marks marks b).2 := by
  have hbytes := adds_prepend
    (distancesFrom ((b.align (marks.length * 4) 4).used + marks.length * 4) marks).flatten
    (b.align (marks.length * 4) 4)
  rw [length_flatten_of_forall fun x hx => length_of_mem_distancesFrom hx,
    length_distancesFrom] at hbytes
  refine (((adds_align _ le_rfl b).trans hbytes).trans (adds_number le_rfl _ _)).mono ?_
  omega

/-- A number of 32 bits is written where it may stand. -/
lemma adds_word (k : Nat) (b : Builder) : Adds 4 b (b.prepend (LittleEndian.encode 4 k)) :=
  (adds_prepend _ b).mono (LittleEndian.length_encode 4 k).le

/-- An index is written and noted. -/
lemma adds_noteIndex (bytes : Bytes) (b : Builder) : Adds bytes.length b (b.noteIndex bytes) :=
  ⟨(Nat.add_comm _ _).le, id⟩

/-- A table is written with its fields, and with its index if that is new. -/
lemma adds_table {content : List (Slot × FieldValue)} (hfields : Adds n b (fields content b).2)
    (hm : (fields content b).1.foldl (fun l e => max l (e.1 + 2)) indexHead = m)
    (heven : m % 2 = 0) (hhead : indexHead ≤ m) : Adds (n + (7 + m)) b (table content b).2 := by
  refine hfields.trans ?_
  rw [table]
  generalize fields content b = result at *
  obtain ⟨noted, last⟩ := result
  have halign := adds_align 4 le_rfl last
  dsimp only at hm ⊢
  split
  next => exact (halign.trans (adds_word _ _)).mono (by omega)
  next =>
    have hindex := length_index noted ((last.align 4 4).used + 4)
      ((last.align 4 4).used + 4 - b.used) hm heven hhead
    refine (halign.trans ((adds_word _ _).trans (adds_noteIndex _ _))).mono ?_
    omega

/-- A response is finished. -/
lemma length_finish_le (root : Mark) (hb : b.alignment ≤ 4) :
    (b.finish root).length ≤ b.used + 10 := by
  have hadds := ((adds_align 4 hb b).trans (adds_distance root _)).used
  rwa [used_eq] at hadds

end Builder

namespace Build

open Builder

variable {α : Type} {n : Nat} {b : Builder}

/-- Things are written one after another. -/
lemma adds_mapM {write : α → Build Mark} {l : List α} (h : ∀ a ∈ l, ∀ b, Adds n b (write a b).2)
    (b : Builder) :
    Adds (l.length * n) b (l.mapM write b).2 ∧ (l.mapM write b).1.length = l.length := by
  induction l generalizing b with
  | nil => exact ⟨(Adds.refl b).mono (Nat.zero_le _), rfl⟩
  | cons a l ih =>
    obtain ⟨hadds, hlength⟩ := ih (fun a ha => h a (by simp [ha])) (write a b).2
    rw [List.mapM_cons]
    refine ⟨((h a (by simp) b).trans hadds).mono ?_, congrArg (· + 1) hlength⟩
    rw [List.length_cons, Nat.succ_mul, Nat.add_comm]

/-- A list of tables is written. -/
lemma adds_tables {write : α → Build Mark} {l : List α} (h : ∀ a ∈ l, ∀ b, Adds n b (write a b).2)
    (b : Builder) : Adds (l.length * (n + 4) + 10) b (tables write l b).2 := by
  obtain ⟨hadds, hlength⟩ := adds_mapM h b
  have hmarks := adds_marks (l.mapM write b).1 (l.mapM write b).2
  rw [hlength] at hmarks
  refine (hadds.trans hmarks).mono ?_
  rw [Nat.mul_add]
  omega

/-- An image without fields is written. -/
lemma adds_bareImage (b : Builder) : Adds 11 b (image ⟨none, none, none, none⟩ b).2 := by
  rw [image_eq]
  exact adds_table (m := 4) (.refl b) rfl rfl (by decide)

/-- A member is written around its items. -/
lemma adds_member (items : Mark) (b : Builder) : Adds 20 b (member items b).2 :=
  adds_table (m := 6) (adds_distance items b) rfl rfl (by decide)

/-- The root table of a member is written. -/
lemma adds_root (kind : UInt8) (data : Mark) (b : Builder) : Adds 26 b (root kind data b).2 := by
  have hdata := adds_distance data b
  rw [root]
  split
  next => exact (adds_table (m := 8) hdata rfl rfl (by decide)).mono (by decide)
  next =>
    have hkind := adds_number (show 1 ≤ 4 by decide) kind.toNat (b.distance data)
    exact adds_table (m := 8) (hdata.trans hkind) rfl rfl (by decide)

/-- A document with items is written as its items, the member around them and the root. -/
lemma adds_items {items : Build Mark} (h : Adds n b (items b).2) (kind : UInt8) :
    Adds (n + 46) b ((do root kind (← member (← items)) : Build Mark) b).2 :=
  h.trans ((adds_member _ _).trans (adds_root kind _ _))

end Build

/-- So many images without fields. -/
def Document.bareImages (n : Nat) : Document Unit :=
  .images (List.replicate n ⟨none, none, none, none⟩)

/-- Images without fields are written in a few bytes each. -/
lemma length_encode_bareImages_le (n : Nat) :
    (Document.bareImages n).encode.length ≤ 15 * n + 66 := by
  set images : List (ImageEntry Unit) := List.replicate n ⟨none, none, none, none⟩ with hreplicate
  have hbare : ∀ i ∈ images, ∀ b, Builder.Adds 11 b (Build.image i b).2 :=
    fun i hi b => List.eq_of_mem_replicate hi ▸ Build.adds_bareImage b
  have hall := Build.adds_items (Build.adds_tables hbare Builder.empty) MemberKind.images
  have hused := hall.used
  rw [hreplicate, List.length_replicate] at hused
  refine (Builder.length_finish_le _ (hall.alignment (by decide))).trans ?_
  refine (Nat.add_le_add_right hused 10).trans ?_
  show 0 + (n * (11 + 4) + 10 + 46) + 10 ≤ 15 * n + 66
  omega

/-! ### What is read back -/

variable {d : TagDictionary} {r : SearchResult} {document : Document Unit}

/-- A response whose checks are over a limit is refused for it, whatever the dictionary. -/
lemma decodeResponse_encode_of_not_fits (d : TagDictionary)
    (hsize : document.encode.length ≤ maxResponseSize) (hfits : ¬ document.cost.Fits) :
    ∃ f : Fault, f.hasPlace = false ∧
      decodeResponse d document.encode = .error (Check.fault 0 f) := by
  obtain ⟨f, hf, hverify⟩ := verify_encode_of_not_fits hsize hfits
  refine ⟨f, hf, ?_⟩
  rw [decodeResponse, checkSize, if_neg (Nat.not_lt.2 hsize)]
  simp only [hverify]
  rfl

/-- The limits are all faults that have no place. -/
lemma eq_limit_of_hasPlace {f : Fault} (h : f.hasPlace = false) :
    f = .manyTables ∨ f = .apparentSize := by
  cases f <;> simp_all [Fault.hasPlace]

/-- **What is written is read back exactly within the limits.** Let a result be written, of which
each tag has a name that leads back to it and no text is too long, and let the response not be too
long. It is read back exactly if the result takes no more tables than may be visited, which are two
and one for each image, tag and attribute value, and if the checks of the response refer to no more
bytes than a response may have. If not, it is refused for one of these two limits. -/
theorem decodes_iff_within_limits (d : TagDictionary) (r : SearchResult) {b : Bytes}
    (h : encodeResponse d r = .ok b) (hnames : ∀ record ∈ r.toRecords, record.IsNamed d)
    (hshort : ∀ record ∈ r.toRecords, (record.attributes.getD ∅).IsShort)
    (hsize : b.length ≤ maxResponseSize) :
    ∃ document, Document.ofResult d r = .ok document ∧
      ((∃ r', decodeResponse d b = .ok r') ↔
        r.tables ≤ maxTables ∧ document.cost.apparent ≤ maxResponseSize) ∧
      ∀ e, decodeResponse d b = .error e →
        e = Check.fault 0 .manyTables ∨ e = Check.fault 0 .apparentSize := by
  obtain ⟨document, hdocument, rfl⟩ := encodeResponse_eq_ok_iff.1 h
  have hiff : document.cost.Fits ↔
      r.tables ≤ maxTables ∧ document.cost.apparent ≤ maxResponseSize := by
    rw [Budget.Fits, tables_ofResult hdocument, and_comm]
  refine ⟨document, hdocument, ?_⟩
  rw [← hiff]
  by_cases hfits : document.cost.Fits
  · have hread := decodeResponse_encode hdocument hnames hshort hsize hfits
    rw [hread]
    exact ⟨iff_of_true ⟨_, rfl⟩ hfits, nofun⟩
  · obtain ⟨f, hf, hrefused⟩ := decodeResponse_encode_of_not_fits d hsize hfits
    rw [hrefused]
    refine ⟨iff_of_false nofun hfits, fun e he => ?_⟩
    obtain rfl : Check.fault 0 f = e := Except.error.inj he
    exact (eq_limit_of_hasPlace hf).imp (congrArg _) (congrArg _)

/-- An image with a tag and an attribute value takes five tables with those around it, and is read
back. -/
theorem decodes_iff_within_limits_fiveTables :
    let d : TagDictionary := .ofList [(5, "cat")]
    let record : ImageRecord := ⟨some 7, none, some (.ofList [(5, 3)]),
      some (AttributeMap.add ∅ "color" "red" 4)⟩
    (SearchResult.images [record]).tables = 5 ∧
      ∃ b, encodeResponse d (.images [record]) = .ok b ∧ b.length ≤ maxResponseSize ∧
        ∃ r, decodeResponse d b = .ok r := by
  intro d record
  let document : Document Unit :=
    .images [⟨some 7, none, some [⟨(), "cat", 3⟩], some [⟨(), "color", "red", 4⟩]⟩]
  have hdocument : Document.ofResult d (.images [record]) = .ok document := by decide +kernel
  have hencode : encodeResponse d (.images [record]) = .ok document.encode :=
    encodeResponse_eq_ok_iff.2 ⟨document, hdocument, rfl⟩
  have hsize : document.encode.length ≤ maxResponseSize := by decide +kernel
  obtain ⟨document', hdocument', hread, -⟩ := decodes_iff_within_limits d (.images [record]) hencode
    (by decide +kernel) (by decide +kernel) hsize
  obtain rfl : document = document' := Except.ok.inj (hdocument.symm.trans hdocument')
  exact ⟨by decide +kernel, _, hencode, hsize, hread.2 (by decide +kernel)⟩

/-- Images without fields, if they are many but not too many, are written in a response that is not
too long, and this is refused. -/
lemma refused_of_bareImages (d : TagDictionary) {n : Nat} (hmany : maxTables < n + 2)
    (hfew : 15 * n + 66 ≤ maxResponseSize) :
    ∃ b, encodeResponse d (.images (List.replicate n ⟨none, none, none, none⟩)) = .ok b ∧
      b.length ≤ maxResponseSize ∧ ∃ e, decodeResponse d b = .error e := by
  set records : List ImageRecord := List.replicate n ⟨none, none, none, none⟩ with hrecords
  have hdocument : Document.ofResult d (.images records) = .ok (.bareImages n) := by
    refine bind_eq_ok_iff.2 ⟨_, mapM_eq_ok_iff.2 ?_, rfl⟩
    have hmap : List.replicate n (⟨none, none, none, none⟩ : ImageEntry Unit) =
        records.map fun _ => ⟨none, none, none, none⟩ := by rw [hrecords, List.map_replicate]
    rw [hmap, List.forall₂_map_right_iff, List.forall₂_same]
    intro record hrecord
    rw [List.eq_of_mem_replicate hrecord]
    rfl
  have hsize := (length_encode_bareImages_le n).trans hfew
  have htables : (SearchResult.images records).tables = n + 2 := by
    rw [SearchResult.tables, hrecords, List.map_replicate, List.sum_replicate]
    show 2 + n * 1 = n + 2
    omega
  have hfits : ¬ (Document.bareImages n).cost.Fits := by
    intro h
    have hle := h.2
    rw [tables_ofResult hdocument, htables] at hle
    omega
  obtain ⟨f, -, hrefused⟩ := decodeResponse_encode_of_not_fits d hsize hfits
  exact ⟨_, encodeResponse_eq_ok_iff.2 ⟨_, hdocument, rfl⟩, hsize, _, hrefused⟩

/-- A million images less one, none of which has a field, are written in a response that is not too
long, and this is refused. -/
theorem bareImages_refused :
    let r : SearchResult := .images (List.replicate 999999 ⟨none, none, none, none⟩)
    (∀ record ∈ r.toRecords, record.IsNamed ∅ ∧ record.IsNarrow ∧
        (record.attributes.getD ∅).IsShort) ∧
      ∃ b, encodeResponse ∅ r = .ok b ∧ b.length ≤ maxResponseSize ∧
        ∃ e, decodeResponse ∅ b = .error e := by
  refine ⟨fun record hrecord => ?_, refused_of_bareImages ∅ (by decide) (by decide)⟩
  rw [List.eq_of_mem_replicate hrecord]
  exact ⟨nofun, ⟨nofun, nofun⟩, nofun⟩

end TagCatalog.Table
