import Mathlib.Tactic
import TagCatalog.Proofs.Table.Building

/-!
A table stands where it is written.

The fields of a table are written first, each in front of the one before, then the table itself and
in front of it its index, unless the same index is already there.

* `Content`, `FieldValue.Means`: what is written for a field and what stands there then.
* `Noted`: the mark that is noted of a field.
* `index_has`: the distances in an index.
* `kept_table`: a table has the fields that it is given, at their slots, and no others.
-/

namespace TagCatalog.Table

open Wire

variable {α : Type}

namespace Builder

variable {b b' : Builder} {m : Nat} {P : Buffer → Nat → Prop}

/-! ### Values of fields -/

/-- A value of a field, given by what stands where it is written. -/
inductive FieldValue.Means (b : Builder) : FieldValue → (Buffer → Nat → Prop) → Prop
  | number {width n : Nat} (hwidth : width ∣ 4) (hn : n < byteCapacity width) :
    Means b (.number width n) fun buffer => NumberAt buffer width n
  | hash (h : ImageHash) : Means b (.hash h) fun buffer => HashAt buffer h
  | mark {m : Nat} {P : Buffer → Nat → Prop} (h : b.Kept m P) :
    Means b (.mark m) fun buffer => LinkAt buffer (P buffer)

namespace FieldValue

variable {value : FieldValue}

/-- A value means the same when more is written. -/
lemma Means.of_suffix (h : value.Means b P) (hb : b.bytes <:+ b'.bytes) : value.Means b' P := by
  cases h with
  | number hwidth hn => exact .number hwidth hn
  | hash h => exact .hash h
  | mark h => exact .mark (h.of_suffix hb)

/-- The value of a field is written in front. -/
lemma grows_write (value : FieldValue) (b : Builder) : b.Grows (value.write b) :=
  match value with
  | .number width n => grows_number width n b
  | .hash h => (grows_align _ 1 b).trans (grows_prepend h.bytes _)
  | .mark m => grows_distance m b

/-- The value of a field has at most 32 bytes. -/
lemma Means.used_write (h : value.Means b P) :
    b.used < (value.write b).used ∧ (value.write b).used ≤ b.used + 32 := by
  cases h with
  | @number width n hwidth hn =>
    have hpos : 0 < width := Nat.pos_of_dvd_of_pos hwidth (by decide)
    have hle : width ≤ 4 := Nat.le_of_dvd (by decide) hwidth
    have hpadding := padding_lt b.used width width hpos
    rw [write, used_number]
    omega
  | hash h =>
    have hused : ((b.align ImageHash.size 1).prepend h.bytes).used = 32 + b.used := by
      show h.bytes.length + (b.align _ 1).used = _
      rw [h.length_bytes, used_align, padding_eq_zero (Nat.mod_one _), Nat.zero_add]
    rw [write, hused]
    omega
  | mark hm =>
    have hpadding := padding_lt b.used 4 4 (by decide)
    rw [write, used_distance]
    omega

/-- The value of a field stands where it is written. -/
lemma Means.kept_write (h : value.Means b P) : (value.write b).Kept (value.write b).used P := by
  cases h with
  | number hwidth hn => exact kept_number hwidth hn b
  | hash h =>
    refine (kept_of_append _ (b.align ImageHash.size 1).bytes rfl).imp 1
      (by decide) (Nat.mod_one _) fun _ _ _ _ _ hhas => .of_has hhas
  | mark hm => exact kept_distance hm

end FieldValue

/-! ### Fields -/

/-- What is written for a field, with what stands there then. -/
structure Content where
  value : FieldValue
  stands : Buffer → Nat → Prop

/-- The values of fields at their slots. -/
def values (fs : List (Slot × Content)) : List (Slot × FieldValue) :=
  fs.map fun f => (f.1, f.2.value)

/-- What is noted of a field that is written after so many bytes. -/
structure Noted (b : Builder) (before : Nat) (e : Slot × Mark) (f : Slot × Content) : Prop where
  slot : e.1 = f.1
  after : before < e.2
  kept : b.Kept e.2 f.2.stands

/-- Fields are written in front, and each stands where it is noted. -/
lemma fields_noted {fs : List (Slot × Content)} (h : ∀ f ∈ fs, f.2.value.Means b f.2.stands) :
    b.Grows (fields (values fs) b).2 ∧
    (fields (values fs) b).2.used ≤ b.used + 32 * fs.length ∧
    List.Forall₂ (Noted (fields (values fs) b).2 b.used) (fields (values fs) b).1 fs := by
  induction fs generalizing b with
  | nil => exact ⟨.refl b, le_rfl, .nil⟩
  | cons f fs ih =>
    have hf := h f (by simp)
    have hwrite := f.2.value.grows_write b
    obtain ⟨hgrows, hused, hnoted⟩ :=
      ih fun g hg => (h g (by simp [hg])).of_suffix hwrite.suffix
    have hlength := hf.used_write
    refine ⟨hwrite.trans hgrows, ?_, .cons ⟨rfl, hlength.1, ?_⟩ (hnoted.imp fun e g hg => ?_)⟩
    · rw [List.length_cons]
      exact hused.trans (by omega)
    · exact hf.kept_write.of_suffix hgrows.suffix
    · exact ⟨hg.slot, hlength.1.trans hg.after, hg.kept⟩

section

variable {noted : List (Slot × Mark)} {fs : List (Slot × Content)} {before : Nat}
  (h : List.Forall₂ (Noted b before) noted fs)

include h

/-- Fields are noted by their slots. -/
lemma map_fst_of_noted : noted.map Prod.fst = fs.map Prod.fst := by
  induction h with
  | nil => rfl
  | cons he _ ih => rw [List.map_cons, List.map_cons, he.slot, ih]

/-- A field that is written is found by its slot. -/
lemma exists_lookup_of_mem (hnodup : (fs.map Prod.fst).Nodup) {slot : Slot} {c : Content}
    (hf : (slot, c) ∈ fs) :
    ∃ m : Nat, noted.lookup slot = some m ∧ Noted b before (slot, m) (slot, c) := by
  induction h with
  | nil => cases hf
  | @cons e f noted fs he hrest ih =>
    obtain ⟨s, m⟩ := e
    obtain rfl : s = f.1 := he.slot
    rw [List.map_cons, List.nodup_cons] at hnodup
    rcases List.mem_cons.1 hf with rfl | hf
    · exact ⟨m, List.lookup_cons_self, he⟩
    · have hne : slot ≠ f.1 := by
        rintro rfl
        exact hnodup.1 (List.mem_map.2 ⟨_, hf, rfl⟩)
      obtain ⟨m', hm', hnoted⟩ := ih hnodup.2 hf
      exact ⟨m', by rw [List.lookup_cons, beq_false_of_ne hne, hm'], hnoted⟩

/-- A field that is not written is not found. -/
lemma lookup_eq_none_of_notMem {slot : Slot} (hslot : slot ∉ fs.map Prod.fst) :
    noted.lookup slot = none := by
  rw [List.lookup_eq_none_iff]
  rintro e he
  rw [← map_fst_of_noted h] at hslot
  exact bne_iff_ne.2 fun heq => hslot (heq ▸ List.mem_map_of_mem he)

end

/-! ### Indexes -/

/-- What may be written at the slots of a table stands at these slots. -/
def layout (buffer : Buffer) (entries : List (Slot × Option Content)) :
    List (Slot × Option (Nat → Prop)) :=
  entries.map fun e => (e.1, e.2.map fun c => c.stands buffer)

/-- The fields that are written of those that a table may have. -/
def written (entries : List (Slot × Option Content)) : List (Slot × Content) :=
  entries.filterMap fun e => e.2.map (e.1, ·)

/-- Slots that a table may have: they are even, behind the head of an index, and few. -/
structure Slots (slots : List Nat) : Prop where
  nodup : slots.Nodup
  even : ∀ slot ∈ slots, slot % 2 = 0
  inside : ∀ slot ∈ slots, indexHead ≤ slot ∧ slot ≤ 10
  few : slots.length ≤ 4

instance (slots : List Nat) : Decidable (Slots slots) :=
  decidable_of_iff (slots.Nodup ∧ (∀ slot ∈ slots, slot % 2 = 0) ∧
      (∀ slot ∈ slots, indexHead ≤ slot ∧ slot ≤ 10) ∧ slots.length ≤ 4)
    ⟨fun h => ⟨h.1, h.2.1, h.2.2.1, h.2.2.2⟩, fun h => ⟨h.nodup, h.even, h.inside, h.few⟩⟩

section

variable {entries : List (Slot × Option Content)} (hslots : Slots (entries.map Prod.fst))

/-- A field is written if it is there. -/
lemma mem_written {slot : Slot} {c : Content} :
    (slot, c) ∈ written entries ↔ (slot, some c) ∈ entries := by
  simp only [written, List.mem_filterMap, Option.map_eq_some_iff, Prod.mk.injEq]
  constructor
  · rintro ⟨⟨slot, o⟩, he, c, rfl, rfl, rfl⟩
    exact he
  · exact fun h => ⟨(slot, some c), h, c, rfl, rfl, rfl⟩

/-- The slots of what is written are among those that a table may have. -/
lemma map_fst_written_sublist (entries : List (Slot × Option Content)) :
    ((written entries).map Prod.fst).Sublist (entries.map Prod.fst) := by
  induction entries with
  | nil => exact List.Sublist.refl _
  | cons e entries ih =>
    obtain ⟨slot, o⟩ := e
    cases o with
    | none => exact ih.cons slot
    | some c => exact ih.cons_cons slot

/-- The length of an index is that of the index of the layout. -/
lemma indexLength_layout (buffer : Buffer) :
    indexLength (layout buffer entries) = indexLength entries := by
  simp only [indexLength, layout, List.foldl_map, Option.isSome_map]

/-- An index goes up to the last slot that is noted. -/
lemma foldl_noted {noted : List (Slot × Mark)} {before : Nat}
    (h : List.Forall₂ (Noted b before) noted (written entries)) :
    noted.foldl (fun l e => max l (e.1 + 2)) indexHead = indexLength entries := by
  have hfst := map_fst_of_noted h
  calc noted.foldl (fun l e => max l (e.1 + 2)) indexHead
      = (noted.map Prod.fst).foldl (fun l slot => max l (slot + 2)) indexHead := by
        rw [List.foldl_map]
    _ = indexLength entries := by
        rw [hfst, List.foldl_map, written, List.foldl_filterMap, indexLength]
        congr 1
        funext l e
        cases e.2 <;> rfl

/-- An index reaches the slot of a field that is there. -/
lemma le_indexLength {slot : Slot} {c : Content} (h : (slot, some c) ∈ entries) :
    slot + 2 ≤ indexLength entries := by
  obtain ⟨front, back, rfl⟩ := List.append_of_mem h
  rw [indexLength, List.foldl_append, List.foldl_cons]
  refine List.foldlRecOn back _ (motive := fun l => slot + 2 ≤ l) ?_ fun l hl e _ => ?_
  · exact Nat.le_max_right _ _
  · split
    · exact hl.trans (Nat.le_max_left _ _)
    · exact hl

include hslots

/-- The length of an index is even and at most 12. -/
lemma indexLength_spec :
    indexLength entries % 2 = 0 ∧ indexHead ≤ indexLength entries ∧ indexLength entries ≤ 12 := by
  have hstep : ∀ l slot : Nat, l % 2 = 0 ∧ indexHead ≤ l ∧ l ≤ 12 → slot % 2 = 0 → slot ≤ 10 →
      max l (slot + 2) % 2 = 0 ∧ indexHead ≤ max l (slot + 2) ∧ max l (slot + 2) ≤ 12 := by
    omega
  refine List.foldlRecOn entries _
    (motive := fun l => l % 2 = 0 ∧ indexHead ≤ l ∧ l ≤ 12) (by decide) fun l hl e he => ?_
  split
  · exact hstep l e.1 hl (hslots.even e.1 (List.mem_map_of_mem he))
      (hslots.inside e.1 (List.mem_map_of_mem he)).2
  · exact hl

end

/-- The slots of an index, in order. -/
lemma length_index (noted : List (Slot × Mark)) (table size : Nat) {n : Nat}
    (hn : noted.foldl (fun l e => max l (e.1 + 2)) indexHead = n) (heven : n % 2 = 0)
    (hhead : indexHead ≤ n) : (index noted table size).length = n := by
  have hslots : ∀ slots : List Slot, (slots.flatMap fun slot =>
      LittleEndian.encode 2 (slotDistance noted table slot)).length = slots.length * 2 := by
    intro slots
    rw [List.length_flatMap, List.map_congr_left fun _ _ => LittleEndian.length_encode 2 _,
      List.map_const', List.sum_replicate, smul_eq_mul]
  rw [index, hn, List.length_append, List.length_append, LittleEndian.length_encode,
    LittleEndian.length_encode, hslots, List.length_map, List.length_range]
  rw [indexHead] at hhead ⊢
  omega

end Builder

namespace Buffer.Has

/-- An index that stands somewhere has its length in front and the distance of each field at its
slot. -/
lemma index {b : Buffer} {p n table size : Nat} {noted : List (Slot × Mark)} (hp : p % 2 = 0)
    (h : b.Has p (Builder.index noted table size))
    (hn : noted.foldl (fun l e => max l (e.1 + 2)) indexHead = n) (hcapacity : n < byteCapacity 2) :
    NumberAt b 2 n p ∧ ∀ slot : Nat, slot % 2 = 0 → indexHead ≤ slot → slot + 2 ≤ n →
      Builder.slotDistance noted table slot < byteCapacity 2 →
      NumberAt b 2 (Builder.slotDistance noted table slot) (p + slot) := by
  rw [Builder.index, hn, List.flatMap_def, List.map_map] at h
  refine ⟨.of_has hp h.left.left hcapacity, fun slot heven hhead hslot hdistance => ?_⟩
  have hrest := h.right
  rw [List.length_append, LittleEndian.length_encode, LittleEndian.length_encode] at hrest
  have hpieces : ∀ x ∈ (List.range ((n - indexHead) / 2)).map
      ((fun slot => LittleEndian.encode 2 (Builder.slotDistance noted table slot)) ∘
        fun i => indexHead + 2 * i), x.length = 2 := by
    intro x hx
    obtain ⟨i, -, rfl⟩ := List.mem_map.1 hx
    exact LittleEndian.length_encode 2 _
  rw [indexHead] at hhead
  have hi : (slot - 4) / 2 < (n - indexHead) / 2 := by
    rw [indexHead]
    omega
  have hpiece := hrest.flatten hpieces (List.getElem?_map.trans
    (congrArg (Option.map _) (List.getElem?_range hi)))
  rw [Function.comp_apply, indexHead, show 4 + 2 * ((slot - 4) / 2) = slot by omega,
    show p + (2 + 2) + (slot - 4) / 2 * 2 = p + slot by omega] at hpiece
  exact .of_has (by omega) hpiece hdistance

end Buffer.Has

namespace Builder

/-! ### Tables -/

variable {b b' : Builder}

section

variable {entries : List (Slot × Option Content)} (hslots : Slots (entries.map Prod.fst))

include hslots

/-- A field that is not written has no distance. -/
lemma slotDistance_of_none {noted : List (Slot × Mark)} {before : Nat} (mark : Nat)
    (hnoted : List.Forall₂ (Noted b before) noted (written entries)) {slot : Slot}
    (he : (slot, none) ∈ entries) : slotDistance noted mark slot = 0 := by
  have hnone : noted.lookup slot = none := by
    refine lookup_eq_none_of_notMem hnoted fun hmem => ?_
    obtain ⟨⟨_, c⟩, hc, rfl⟩ := List.mem_map.1 hmem
    cases List.inj_on_of_nodup_map hslots.nodup he (mem_written.1 hc) rfl
  rw [slotDistance, hnone]

/-- A field that is written stands at its distance from a table in front of it. -/
lemma slotDistance_of_some {noted : List (Slot × Mark)} {before p mark : Nat} {buffer : Buffer}
    (hnoted : List.Forall₂ (Noted b before) noted (written entries)) (hends : b.Ends buffer)
    (hmark : b.used < mark) (hp : p + mark = buffer.size) {slot : Slot} {c : Content}
    (he : (slot, some c) ∈ entries) :
    0 < slotDistance noted mark slot ∧ slotDistance noted mark slot < mark - before ∧
      c.stands buffer (p + slotDistance noted mark slot) := by
  obtain ⟨m, hm, hkept⟩ := exists_lookup_of_mem hnoted
    ((map_fst_written_sublist entries).nodup hslots.nodup) (mem_written.2 he)
  have hdistance : slotDistance noted mark slot = mark - m := by rw [slotDistance, hm]
  have hafter : before < m := hkept.after
  have hbefore : m ≤ b.used := hkept.kept.le
  rw [hdistance, show p + (mark - m) = buffer.size - m by omega]
  exact ⟨by omega, by omega, hkept.kept.stands buffer hends⟩

/-- A table whose distances are in an index has the fields that are written. -/
lemma fieldsAt_of_index {noted : List (Slot × Mark)} {before p i mark size : Nat}
    {buffer : Buffer} (hnoted : List.Forall₂ (Noted b before) noted (written entries))
    (hends : b.Ends buffer) (hmark : b.used < mark) (hsmall : mark < before + byteCapacity 2)
    (hp : p + mark = buffer.size)
    (hdistance : ∃ n, NumberAt buffer 4 n p ∧ (p : Int) - signed32 n = i) (hi : i % 2 = 0)
    (hindex : buffer.Has i (index noted mark size)) :
    FieldsAt buffer (layout buffer entries) p i := by
  have hn := foldl_noted hnoted
  obtain ⟨heven, hhead, hle⟩ := indexLength_spec hslots
  have hcapacity : 12 < byteCapacity 2 := by decide
  obtain ⟨hlength, hslot⟩ := hindex.index hi hn (by omega)
  have hroom := hindex.room
  rw [length_index noted mark size hn heven hhead] at hroom
  rw [← indexLength_layout buffer] at hlength heven hroom
  refine ⟨hdistance, hlength, heven, hroom, ?_⟩
  rintro _ hlayout
  obtain ⟨⟨slot, o⟩, he, rfl⟩ := List.mem_map.1 hlayout
  have hnumber := hslot slot (hslots.even slot (List.mem_map_of_mem he))
    (hslots.inside slot (List.mem_map_of_mem he)).1
  rw [indexLength_layout]
  split
  next hend =>
    cases o with
    | none =>
      have hzero := slotDistance_of_none hslots mark hnoted he
      exact ⟨_, hnumber hend (by rw [hzero]; decide), hzero⟩
    | some c =>
      obtain ⟨hpos, hlt, hstands⟩ := slotDistance_of_some hslots hnoted hends hmark hp he
      exact ⟨_, hnumber hend (by omega), hpos.ne', hstands⟩
  next hend =>
    cases o with
    | none => rfl
    | some c => exact absurd (le_indexLength he) hend

/-- A table whose index is known to stand somewhere has the fields that are written. -/
lemma kept_tableAt {noted : List (Slot × Mark)} {before size n k : Nat}
    (hnoted : List.Forall₂ (Noted b before) noted (written entries)) (hwhole : b.used % 4 = 0)
    (hsmall : b.used + 4 < before + byteCapacity 2) (hb' : b.bytes <:+ b'.bytes)
    (hnumber : b'.Kept (b.used + 4) fun buffer p => buffer.Has p (LittleEndian.encode 4 n))
    (hindex : b'.Kept k fun buffer p =>
      p % 2 = 0 ∧ buffer.Has p (index noted (b.used + 4) size))
    (hn : b.used + 4 ≤ maxResponseSize →
      n < byteCapacity 4 ∧ signed32 n = (k : Int) - (b.used + 4 : Nat)) :
    b'.Kept (b.used + 4) fun buffer => TableAt buffer (layout buffer entries) := by
  refine hnumber.imp 4 (by decide) (by omega) fun buffer p hends hend hp hhas => ?_
  obtain ⟨hi, hindexHas⟩ := hindex.stands buffer hends
  have hsize := hends.size
  obtain ⟨hlt, hsigned⟩ := hn (by omega)
  have hroom := hindexHas.room
  have hk := hindex.le
  have hused : b'.used ≤ buffer.size := by
    rw [b'.used_eq, ← Array.length_toList]
    exact hends.suffix.length_le
  refine ⟨buffer.size - k, fieldsAt_of_index hslots hnoted (hends.of_suffix hb') (by omega) hsmall
    hend ⟨n, .of_has hp hhas hlt, ?_⟩ hi hindexHas⟩
  omega

end

/-- A builder that has written an index and notes where. -/
def noteIndex (bytes : Bytes) (b : Builder) : Builder :=
  { b.prepend bytes with indexes := (bytes, (b.prepend bytes).used) :: b.indexes }

/-- An index stands where it is noted. -/
lemma kept_noteIndex (bytes : Bytes) (heven : (bytes.length + b.used) % 2 = 0) :
    (b.noteIndex bytes).Kept (bytes.length + b.used) fun buffer p =>
      p % 2 = 0 ∧ buffer.Has p bytes :=
  (kept_of_append (b := b.noteIndex bytes) _ b.bytes rfl).imp 2 (by decide) heven
    fun _ _ _ _ hp hhas => ⟨hp, hhas⟩

/-- An index is written in front. -/
lemma grows_noteIndex (bytes : Bytes) (heven : (bytes.length + b.used) % 2 = 0) :
    b.Grows (b.noteIndex bytes) where
  suffix := List.suffix_append _ _
  sound hb e he := by
    rcases List.mem_cons.1 he with rfl | he
    · exact kept_noteIndex bytes heven
    · exact (hb e he).of_suffix (List.suffix_append _ _)

/-- The distance back to an index that is there already is negative. -/
lemma signed32_of_known {known used : Nat} (hle : known ≤ used)
    (hsize : used + 4 ≤ maxResponseSize) :
    UInt32.size + known - (used + 4) < byteCapacity 4 ∧
      signed32 (UInt32.size + known - (used + 4)) = (known : Int) - (used + 4 : Nat) := by
  have hlimit : maxResponseSize = 1073741824 := rfl
  rw [signed32, show UInt32.size = 4294967296 from rfl, show byteCapacity 4 = 4294967296 from rfl,
    if_neg (by omega)]
  omega

/-- The distance back to an index in front of the table is its length. -/
lemma signed32_of_front {length mark : Nat} (hlength : length ≤ 12) :
    length < byteCapacity 4 ∧ signed32 length = ((length + mark : Nat) : Int) - (mark : Nat) := by
  rw [signed32, show UInt32.size = 4294967296 from rfl, show byteCapacity 4 = 4294967296 from rfl,
    if_pos (by omega)]
  omega

/-- The mark of a number of 32 bits, before which nothing is left out. -/
lemma used_word (n : Nat) : (b.prepend (LittleEndian.encode 4 n)).used = b.used + 4 := by
  show (LittleEndian.encode 4 n).length + b.used = _
  rw [LittleEndian.length_encode, Nat.add_comm]

/-- A number of 32 bits stands where it is written. -/
lemma kept_word (n : Nat) : (b.prepend (LittleEndian.encode 4 n)).Kept (b.used + 4)
    fun buffer p => buffer.Has p (LittleEndian.encode 4 n) := by
  rw [← used_word n]
  exact kept_of_append _ _ rfl

section

variable {entries : List (Slot × Option Content)} (hslots : Slots (entries.map Prod.fst))
  {noted : List (Slot × Mark)} {before size : Nat}
  (hnoted : List.Forall₂ (Noted b before) noted (written entries)) (hwhole : b.used % 4 = 0)
  (hsmall : b.used + 4 < before + byteCapacity 2)

include hslots hnoted hwhole hsmall

/-- A table whose index is there already leads back to it. -/
lemma table_of_known (hb : b.Sound) {known : Nat}
    (hknown : b.indexes.lookup (index noted (b.used + 4) size) = some known) :
    (b.prepend (LittleEndian.encode 4 (UInt32.size + known - (b.used + 4)))).Kept (b.used + 4)
      fun buffer => TableAt buffer (layout buffer entries) := by
  obtain ⟨_, _, hindexes, -⟩ := List.lookup_eq_some_iff.1 hknown
  have hkept := hb (_, known) (hindexes ▸ List.mem_append_right _ (.head _))
  refine kept_tableAt hslots hnoted hwhole hsmall (List.suffix_append _ _) (kept_word _)
    (hkept.of_suffix (List.suffix_append _ _)) fun hsize => ?_
  exact signed32_of_known hkept.le hsize

/-- A table whose index is new has it in front. -/
lemma table_of_new {bytes : Bytes} (hbytes : index noted (b.used + 4) size = bytes) :
    b.Grows ((b.prepend (LittleEndian.encode 4 bytes.length)).noteIndex bytes) ∧
    ((b.prepend (LittleEndian.encode 4 bytes.length)).noteIndex bytes).Kept (b.used + 4)
      fun buffer => TableAt buffer (layout buffer entries) := by
  obtain ⟨heven, hhead, hle⟩ := indexLength_spec hslots
  have hlength : bytes.length = indexLength entries := by
    rw [← hbytes]
    exact length_index noted _ _ (foldl_noted hnoted) heven hhead
  have hplace : (bytes.length + (b.prepend (LittleEndian.encode 4 bytes.length)).used) % 2 = 0 := by
    rw [used_word]
    omega
  have hgrows := grows_noteIndex bytes hplace
  have hindex : ((b.prepend (LittleEndian.encode 4 bytes.length)).noteIndex bytes).Kept
      (bytes.length + (b.prepend (LittleEndian.encode 4 bytes.length)).used)
      fun buffer p => p % 2 = 0 ∧ buffer.Has p (index noted (b.used + 4) size) := by
    rw [hbytes]
    exact kept_noteIndex bytes hplace
  refine ⟨(grows_prepend _ b).trans hgrows, ?_⟩
  refine kept_tableAt hslots hnoted hwhole hsmall ((List.suffix_append _ _).trans hgrows.suffix)
    ((kept_word bytes.length).of_suffix hgrows.suffix) hindex fun _ => ?_
  rw [used_word]
  exact signed32_of_front (by omega)

end

/-- A table in front of its fields has them, whether its index is there already or is written in
front of it. -/
lemma table_spec {entries : List (Slot × Option Content)} (hslots : Slots (entries.map Prod.fst))
    (hb : b.Sound) (hentries : entries.Forall fun e => ∀ c ∈ e.2, c.value.Means b c.stands) :
    b.Grows (table (values (written entries)) b).2 ∧
    (table (values (written entries)) b).2.Kept (table (values (written entries)) b).1
      fun buffer => TableAt buffer (layout buffer entries) := by
  have hwritten : ∀ f ∈ written entries, f.2.value.Means b f.2.stands :=
    fun f hf => List.forall_iff_forall_mem.1 hentries _ (mem_written.1 hf) f.2 rfl
  obtain ⟨hfields, hused, hnoted⟩ := fields_noted hwritten
  have hfew : (written entries).length ≤ 4 := by
    have hlength := (map_fst_written_sublist entries).length_le
    rw [List.length_map] at hlength
    exact hlength.trans hslots.few
  rw [table]
  generalize fields (values (written entries)) b = result at *
  obtain ⟨noted, last⟩ := result
  have hgrows := hfields.trans (grows_align 4 4 last)
  replace hnoted := hnoted.imp fun e f (h : Noted last b.used e f) =>
    (⟨h.slot, h.after, h.kept.of_suffix (grows_align 4 4 last).suffix⟩ :
      Noted (last.align 4 4) b.used e f)
  have hwhole : (last.align 4 4).used % 4 = 0 := by
    have hmod := padding_mod last.used 4 4 (by decide)
    rw [used_align]
    omega
  have hsmall : (last.align 4 4).used + 4 < b.used + byteCapacity 2 := by
    have hpadding := padding_lt last.used 4 4 (by decide)
    rw [used_align, show byteCapacity 2 = 65536 from rfl]
    dsimp only at hused
    omega
  dsimp only
  split
  next known hknown =>
    exact ⟨hgrows.trans (grows_prepend _ _),
      table_of_known hslots hnoted hwhole hsmall (hgrows.sound hb) hknown⟩
  next =>
    obtain ⟨hnew, hkept⟩ := table_of_new hslots hnoted hwhole hsmall rfl
    exact ⟨hgrows.trans hnew, hkept⟩

end Builder

end TagCatalog.Table
