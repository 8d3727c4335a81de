import Mathlib.Tactic
import TagCatalog.Proofs.Table.Layout
import TagCatalog.Table.Writer

/-!
What is written stands in the finished response.

The builder writes from the end of a response toward its front, and names a thing by its distance
from the end. So whatever is written later, a thing stays where it is and the distances to it stay
right.

* `Buffer.Has`: bytes that stand at a position.
* `Builder.Ends`, `Builder.Kept`: a response that ends with what a builder has written, and what
  stands at a mark in each such response.
* `Builder.Grows`: a builder that has written more, and whose field indexes may still be used.
* `Builder.kept_number`, `kept_distance`, `kept_text`, `kept_list`, `kept_marks`: what each writer
  leaves behind.
-/

namespace TagCatalog.Table

open Wire

variable {α : Type}

/-! ### Bytes at a position -/

namespace Buffer

/-- These bytes stand at a position. -/
def Has (b : Buffer) (p : Nat) (bytes : Bytes) : Prop :=
  ∃ front back, b.toList = front ++ (bytes ++ back) ∧ front.length = p

namespace Has

variable {b : Buffer} {p : Nat} {x y : Bytes}

/-- The first part of bytes stands where they stand. -/
lemma left (h : b.Has p (x ++ y)) : b.Has p x := by
  obtain ⟨front, back, hb, hp⟩ := h
  exact ⟨front, y ++ back, by rw [hb, List.append_assoc], hp⟩

/-- The second part of bytes stands behind the first. -/
lemma right (h : b.Has p (x ++ y)) : b.Has (p + x.length) y := by
  obtain ⟨front, back, hb, hp⟩ := h
  refine ⟨front ++ x, back, ?_, by rw [List.length_append, hp]⟩
  rw [hb, List.append_assoc, List.append_assoc]

/-- Bytes that stand somewhere are inside. -/
lemma room (h : b.Has p x) : p + x.length ≤ b.size := by
  obtain ⟨front, back, hb, hp⟩ := h
  have hlength := congrArg List.length hb
  rw [Array.length_toList, List.length_append, List.length_append] at hlength
  omega

/-- The first of the bytes is that at the position. -/
lemma getElem? {c : UInt8} (h : b.Has p (c :: x)) : b[p]? = some c := by
  obtain ⟨front, back, hb, rfl⟩ := h
  rw [← Array.getElem?_toList, hb, List.getElem?_append_right le_rfl, Nat.sub_self]
  rfl

/-- The bytes are those between their ends. -/
lemma slice (h : b.Has p x) : b.slice p (p + x.length) = x := by
  obtain ⟨front, back, hb, rfl⟩ := h
  rw [Buffer.slice, Array.toList_extract, hb, List.extract_eq_take_drop, List.drop_left,
    Nat.add_sub_cancel_left, List.take_left]

/-- The bytes of a number are read as the number. -/
lemma uint? {width n : Nat} (h : b.Has p (LittleEndian.encode width n))
    (hn : n < byteCapacity width) : b.uint? p width = some n := by
  induction width generalizing p n with
  | zero =>
    rw [byteCapacity] at hn
    rw [Buffer.uint?]
    exact congrArg some (by omega)
  | succ width ih =>
    rw [byteCapacity] at hn
    rw [LittleEndian.encode] at h
    have hhigh : b.Has (p + 1) (LittleEndian.encode width (n / 256)) :=
      right (x := [UInt8.ofNat n]) h
    rw [Buffer.uint?, h.getElem?, ih hhigh (by omega), Option.bind_eq_bind, Option.bind_some,
      Option.bind_eq_bind, Option.bind_some, UInt8.toNat_ofNat']
    exact congrArg some (by omega)

/-- Of pieces of one width, each stands behind those before it. -/
lemma flatten {l : List Bytes} {width i : Nat} (hw : ∀ x ∈ l, x.length = width)
    (h : b.Has p l.flatten) (hx : l[i]? = some x) : b.Has (p + i * width) x := by
  induction l generalizing p i with
  | nil => cases hx
  | cons y l ih =>
    rw [List.flatten_cons] at h
    cases i with
    | zero =>
      obtain rfl : y = x := Option.some.inj hx
      rw [Nat.zero_mul, Nat.add_zero]
      exact h.left
    | succ i =>
      have hrest := h.right
      rw [hw y (by simp)] at hrest
      have hnext := ih (fun z hz => hw z (by simp [hz])) hrest hx
      rwa [Nat.add_assoc, Nat.add_comm width, ← Nat.succ_mul] at hnext

end Has

end Buffer

/-- The bytes of a number at a multiple of them are the number there. -/
lemma NumberAt.of_has {b : Buffer} {width n p : Nat} (hp : p % width = 0)
    (h : b.Has p (LittleEndian.encode width n)) (hn : n < byteCapacity width) :
    NumberAt b width n p :=
  ⟨hp, h.uint? hn⟩

/-- The bytes of a hash are the hash where they stand. -/
lemma HashAt.of_has {b : Buffer} {h : ImageHash} {p : Nat} (hhas : b.Has p h.bytes) :
    HashAt b h p := by
  have hroom := hhas.room
  have hslice := hhas.slice
  rw [h.length_bytes] at hroom hslice
  exact ⟨hroom, hslice⟩

namespace Builder

/-! ### What later writing does not change -/

/-- A response that ends with what a builder has written. -/
structure Ends (b : Builder) (buffer : Buffer) : Prop where
  suffix : b.bytes <:+ buffer.toList
  whole : buffer.size % 4 = 0
  size : buffer.size ≤ maxResponseSize

/-- What stands at a mark in each response that ends with what is written. -/
structure Kept (b : Builder) (m : Nat) (P : Buffer → Nat → Prop) : Prop where
  le : m ≤ b.used
  stands : ∀ buffer, b.Ends buffer → P buffer (buffer.size - m)

/-- The indexes that may be used again stand where they are noted. -/
def Sound (b : Builder) : Prop :=
  ∀ e ∈ b.indexes, b.Kept e.2 fun buffer p => p % 2 = 0 ∧ buffer.Has p e.1

/-- A builder that has written more. -/
structure Grows (b b' : Builder) : Prop where
  suffix : b.bytes <:+ b'.bytes
  sound : b.Sound → b'.Sound

variable {b b' b'' : Builder} {m : Nat} {P : Buffer → Nat → Prop}

/-- More is written in more bytes. -/
lemma used_le (h : b.bytes <:+ b'.bytes) : b.used ≤ b'.used := by
  rw [b.used_eq, b'.used_eq]
  exact h.length_le

/-- A response that ends with more ends with less. -/
lemma Ends.of_suffix {buffer : Buffer} (h : b'.Ends buffer) (hb : b.bytes <:+ b'.bytes) :
    b.Ends buffer :=
  ⟨hb.trans h.suffix, h.whole, h.size⟩

/-- What is kept is kept by whatever is written in front. -/
lemma Kept.of_suffix (h : b.Kept m P) (hb : b.bytes <:+ b'.bytes) : b'.Kept m P where
  le := h.le.trans (used_le hb)
  stands buffer hends := h.stands buffer (hends.of_suffix hb)

namespace Grows

/-- Nothing more is nothing lost. -/
lemma refl (b : Builder) : b.Grows b := ⟨List.suffix_refl _, id⟩

/-- More and more is more. -/
lemma trans (h : b.Grows b') (h' : b'.Grows b'') : b.Grows b'' :=
  ⟨h.suffix.trans h'.suffix, h'.sound ∘ h.sound⟩

/-- Without new indexes, those that are noted stay where they are. -/
lemma of_suffix (hb : b.bytes <:+ b'.bytes) (hi : b'.indexes = b.indexes) : b.Grows b' where
  suffix := hb
  sound h e he := (h e (hi ▸ he)).of_suffix hb

end Grows

/-- Bytes are written in front. -/
lemma grows_prepend (front : Bytes) (b : Builder) : b.Grows (b.prepend front) :=
  .of_suffix (List.suffix_append front b.bytes) rfl

/-- Zero bytes are written in front. -/
lemma grows_align (size multiple : Nat) (b : Builder) : b.Grows (b.align size multiple) :=
  .of_suffix (List.suffix_append _ b.bytes) rfl

/-- The bytes that a builder begins with stand at the mark of what was written last. -/
lemma kept_of_append (front rest : Bytes) (h : b.bytes = front ++ rest) :
    b.Kept b.used fun buffer p => buffer.Has p front where
  le := le_rfl
  stands buffer hends := by
    obtain ⟨before, hbefore⟩ := hends.suffix
    have hlength := congrArg List.length hbefore
    rw [List.length_append, ← used_eq] at hlength
    exact ⟨before, rest, by rw [← h, hbefore], Nat.eq_sub_of_add_eq hlength⟩

/-- What follows from what stands at a mark stands there too. What is kept at a multiple stands at
one, since the response is a multiple of 4 long. -/
lemma Kept.imp {Q : Buffer → Nat → Prop} (h : b.Kept m P) (width : Nat) (hwidth : width ∣ 4)
    (hm : m % width = 0)
    (himp : ∀ buffer p, b.Ends buffer → p + m = buffer.size → p % width = 0 → P buffer p →
      Q buffer p) : b.Kept m Q where
  le := h.le
  stands buffer hends := by
    have hle : m ≤ buffer.size := h.le.trans (by
      rw [b.used_eq, ← Array.length_toList]
      exact hends.suffix.length_le)
    refine himp buffer _ hends (Nat.sub_add_cancel hle) ?_ (h.stands buffer hends)
    have hwhole : width ∣ buffer.size := hwidth.trans (Nat.dvd_of_mod_eq_zero hends.whole)
    exact Nat.mod_eq_zero_of_dvd (Nat.dvd_sub hwhole (Nat.dvd_of_mod_eq_zero hm))

/-! ### Multiples -/

/-- With the zero bytes in front of it, a thing ends at a multiple. -/
lemma padding_mod (used size multiple : Nat) (hmultiple : 0 < multiple) :
    (padding used size multiple + used + size) % multiple = 0 := by
  have hlt := Nat.mod_lt (used + size) hmultiple
  have hdiv := Nat.mod_add_div (used + size) multiple
  rw [padding]
  rcases Nat.eq_zero_or_pos ((used + size) % multiple) with hzero | hpos
  · rw [hzero, Nat.sub_zero, Nat.mod_self, Nat.zero_add, hzero]
  · rw [Nat.mod_eq_of_lt (Nat.sub_lt hmultiple hpos)]
    have hsum : multiple - (used + size) % multiple + used + size =
        multiple * ((used + size) / multiple + 1) := by
      rw [Nat.mul_add, Nat.mul_one]
      omega
    rw [hsum, Nat.mul_mod_right]

/-- What ends at a multiple needs no zero bytes. -/
lemma padding_eq_zero {used size multiple : Nat} (h : (used + size) % multiple = 0) :
    padding used size multiple = 0 := by
  rw [padding, h, Nat.sub_zero, Nat.mod_self]

/-- Fewer zero bytes are written than the multiple. -/
lemma padding_lt (used size multiple : Nat) (hmultiple : 0 < multiple) :
    padding used size multiple < multiple :=
  Nat.mod_lt _ hmultiple

/-- The zero bytes that are written for a multiple. -/
lemma used_align (size multiple : Nat) (b : Builder) :
    (b.align size multiple).used = padding b.used size multiple + b.used := by
  show (List.replicate _ _).length + b.used = _
  rw [List.length_replicate]

/-! ### Numbers, texts, lists and distances -/

/-- A number is written in front. -/
lemma grows_number (width n : Nat) (b : Builder) : b.Grows (b.number width n) :=
  (grows_align width width b).trans (grows_prepend _ _)

/-- The mark of a number. -/
lemma used_number (width n : Nat) (b : Builder) :
    (b.number width n).used = width + (padding b.used width width + b.used) := by
  show (LittleEndian.encode width n).length + (b.align width width).used = _
  rw [LittleEndian.length_encode, used_align]

/-- A number stands where it is written. -/
lemma kept_number {width n : Nat} (hwidth : width ∣ 4) (hn : n < byteCapacity width) (b : Builder) :
    (b.number width n).Kept (b.number width n).used fun buffer => NumberAt buffer width n := by
  refine (kept_of_append (LittleEndian.encode width n) _ rfl).imp width hwidth ?_
    fun buffer p _ _ hp h => .of_has hp h hn
  have hmod := padding_mod b.used width width (Nat.pos_of_dvd_of_pos hwidth (by decide))
  show (b.number width n).used % width = 0
  rwa [used_number, Nat.add_comm]

/-- A distance that stands where it is reckoned from leads to a mark. -/
lemma linkAt_of_has {buffer : Buffer} {target : Nat → Prop} {p : Nat} (hp : p % 4 = 0)
    (h : buffer.Has p (LittleEndian.encode 4 (buffer.size - p - m))) (hm : m + p ≤ buffer.size)
    (hsize : buffer.size ≤ maxResponseSize) (htarget : target (buffer.size - m)) :
    LinkAt buffer target p := by
  refine ⟨buffer.size - p - m, .of_has hp h ?_, ?_⟩
  · have hcapacity : maxResponseSize < byteCapacity 4 := by decide
    omega
  · rwa [show p + (buffer.size - p - m) = buffer.size - m by omega]

/-- A distance is written in front. -/
lemma grows_distance (mark : Nat) (b : Builder) : b.Grows (b.distance mark) :=
  (grows_align 4 4 b).trans (grows_prepend _ _)

/-- The mark of a distance. -/
lemma used_distance (mark : Nat) (b : Builder) :
    (b.distance mark).used = 4 + (padding b.used 4 4 + b.used) := by
  show (LittleEndian.encode 4 _).length + (b.align 4 4).used = _
  rw [LittleEndian.length_encode, used_align]

/-- A distance leads to its mark. -/
lemma kept_distance (h : b.Kept m P) :
    (b.distance m).Kept (b.distance m).used fun buffer => LinkAt buffer (P buffer) := by
  have hmod := padding_mod b.used 4 4 (by decide)
  have hused := used_distance m b
  have halign := used_align 4 4 b
  have hkept := h.of_suffix (grows_distance m b).suffix
  have hle := h.le
  refine (kept_of_append _ (b.align 4 4).bytes rfl).imp 4 (by decide) ?_
    fun buffer p hends hend hp hhas => ?_
  · show (b.distance m).used % 4 = 0
    omega
  · have hend : p + (b.distance m).used = buffer.size := hend
    refine linkAt_of_has hp ?_ (by omega) hends.size (hkept.stands buffer hends)
    rwa [show buffer.size - p - m = (b.align 4 4).used + 4 - m by omega]

/-- A body of `size` bytes with a number in front, the number at a multiple of 4. -/
def counted (size n : Nat) (body : Bytes) (b : Builder) : Builder :=
  ((b.align size 4).prepend body).number 4 n

/-- A body is written in front with its number. -/
lemma grows_counted (size n : Nat) (body : Bytes) (b : Builder) :
    b.Grows (b.counted size n body) :=
  ((grows_align size 4 b).trans (grows_prepend body _)).trans (grows_number 4 n _)

section

variable {size n : Nat} {body : Bytes} (hbody : body.length = size)

include hbody

/-- Nothing comes between a body and its number. -/
lemma used_counted (b : Builder) :
    (b.counted size n body).used = 4 + (size + (b.align size 4).used) := by
  have hmod := padding_mod b.used size 4 (by decide)
  have halign := used_align size 4 b
  have hinner : ((b.align size 4).prepend body).used = size + (b.align size 4).used :=
    congrArg (· + (b.align size 4).used) hbody
  rw [counted, used_number, hinner, padding_eq_zero (by omega), Nat.zero_add]

/-- A body stands behind its number. -/
lemma kept_counted (b : Builder) :
    (b.counted size n body).Kept (b.counted size n body).used fun buffer p =>
      p % 4 = 0 ∧ buffer.Has p (LittleEndian.encode 4 n ++ body) := by
  have hmod := padding_mod b.used size 4 (by decide)
  have halign := used_align size 4 b
  have hinner : ((b.align size 4).prepend body).used = size + (b.align size 4).used :=
    congrArg (· + (b.align size 4).used) hbody
  have hbytes : (b.counted size n body).bytes =
      (LittleEndian.encode 4 n ++ body) ++ (b.align size 4).bytes := by
    show LittleEndian.encode 4 n ++ (List.replicate (padding _ 4 4) 0 ++ (body ++ _)) = _
    rw [hinner, padding_eq_zero (by omega), List.append_assoc]
    rfl
  refine (kept_of_append _ _ hbytes).imp 4 (by decide) ?_ fun _ _ _ _ hp h => ⟨hp, h⟩
  rw [used_counted hbody]
  omega

end

/-- A text is written in front. -/
lemma grows_text (s : String) (b : Builder) : b.Grows (text s b).2 := grows_counted _ _ _ b

/-- A text stands where it is written. -/
lemma kept_text (s : String) (b : Builder) :
    (text s b).2.Kept (text s b).1 fun buffer => TextAt buffer s := by
  have hbody : (Utf8.encode s ++ [0]).length = (Utf8.encode s).length + 1 := List.length_append
  refine (kept_counted hbody b).imp 1 (by decide) (Nat.mod_one _)
    fun buffer p hends _ _ ⟨hp, h⟩ => ?_
  have hroom := h.room
  have hcapacity : maxResponseSize < byteCapacity 4 := by decide
  have hsize := hends.size
  have hrest := h.right
  rw [LittleEndian.length_encode] at hrest
  rw [List.length_append, List.length_append] at hroom
  exact ⟨.of_has hp h.left (by omega), hrest.left.slice, hrest.right.getElem?⟩

/-- Pieces of one width are as many bytes as they are wide and many. -/
lemma length_flatten_of_forall {pieces : List Bytes} {size : Nat}
    (h : ∀ x ∈ pieces, x.length = size) : pieces.flatten.length = pieces.length * size := by
  rw [List.length_flatten, List.map_congr_left h, List.map_const', List.sum_replicate, smul_eq_mul]

/-- Pieces of one width with their number in front are a list, if each piece is what stands for its
element. -/
lemma listAt_of_has {buffer : Buffer} {size p : Nat} {element : α → Nat → Prop} {l : List α}
    {pieces : List Bytes} (hlength : pieces.length = l.length)
    (hpieces : ∀ x ∈ pieces, x.length = size) (hsize : 0 < size)
    (hbuffer : buffer.size ≤ maxResponseSize) (hp : p % 4 = 0)
    (h : buffer.Has p (LittleEndian.encode 4 l.length ++ pieces.flatten))
    (helement : ∀ i (hi : i < l.length) x, pieces[i]? = some x →
      buffer.Has (p + 4 + i * size) x → element l[i] (p + 4 + i * size)) :
    ListAt buffer size element l p := by
  have hrest := h.right
  rw [LittleEndian.length_encode] at hrest
  have hroom := hrest.room
  rw [length_flatten_of_forall hpieces, hlength] at hroom
  have hle : l.length ≤ l.length * size := Nat.le_mul_of_pos_right _ hsize
  have hcapacity : maxResponseSize < byteCapacity 4 := by decide
  refine ⟨.of_has hp h.left (by omega), hroom, fun i hi => ?_⟩
  have hpiece : pieces[i]? = some (pieces.get ⟨i, hlength ▸ hi⟩) := List.getElem?_eq_getElem _
  exact helement i hi _ hpiece (hrest.flatten hpieces hpiece)

/-- A list is written in front. -/
lemma grows_list (size : Nat) (elements : List Bytes) (b : Builder) :
    b.Grows (list size elements b).2 :=
  grows_counted _ _ _ b

/-- A list stands where it is written. -/
lemma kept_list {size : Nat} (hsize : 0 < size) (hwhole : size % 4 = 0) {l : List α}
    {bytes : α → Bytes} {element : Buffer → α → Nat → Prop} (hbytes : ∀ a, (bytes a).length = size)
    (helement : ∀ buffer a p, p % 4 = 0 → buffer.Has p (bytes a) → element buffer a p)
    (b : Builder) :
    (list size (l.map bytes) b).2.Kept (list size (l.map bytes) b).1 fun buffer =>
      ListAt buffer size (element buffer) l := by
  have hpieces : ∀ x ∈ l.map bytes, x.length = size := by
    intro x hx
    obtain ⟨a, -, rfl⟩ := List.mem_map.1 hx
    exact hbytes a
  refine (kept_counted (length_flatten_of_forall hpieces) b).imp 1 (by decide) (Nat.mod_one _)
    fun buffer p hends _ _ ⟨hp, h⟩ => ?_
  rw [List.length_map] at h
  refine listAt_of_has (List.length_map _) hpieces hsize hends.size hp h fun i hi x hx hpiece => ?_
  rw [List.getElem?_map, List.getElem?_eq_getElem hi] at hx
  obtain rfl : bytes l[i] = x := Option.some.inj hx
  refine helement buffer _ _ ?_ hpiece
  have hmultiple : i * size % 4 = 0 := by rw [Nat.mul_mod, hwhole, Nat.mul_zero, Nat.zero_mod]
  omega

/-- There are as many distances as marks. -/
lemma length_distancesFrom (start : Nat) (marks : List Mark) :
    (distancesFrom start marks).length = marks.length := by
  induction marks generalizing start with
  | nil => rfl
  | cons mark rest ih => exact congrArg (· + 1) (ih _)

/-- A distance is reckoned from the place where it stands. -/
lemma getElem?_distancesFrom (start : Nat) (marks : List Mark) (i : Nat) :
    (distancesFrom start marks)[i]? =
      marks[i]?.map fun mark => LittleEndian.encode 4 (start - 4 * i - mark) := by
  induction marks generalizing start i with
  | nil => rfl
  | cons mark rest ih =>
    cases i with
    | zero => rfl
    | succ i =>
      have hnext := ih (start - 4) i
      rw [show start - 4 - 4 * i = start - 4 * (i + 1) by omega] at hnext
      exact hnext

/-- Distances have 4 bytes each. -/
lemma length_of_mem_distancesFrom {start : Nat} {marks : List Mark} {x : Bytes}
    (h : x ∈ distancesFrom start marks) : x.length = 4 := by
  induction marks generalizing start with
  | nil => cases h
  | cons mark rest ih =>
    rcases List.mem_cons.1 h with rfl | h
    · exact LittleEndian.length_encode 4 _
    · exact ih h

/-- A list of distances is written in front. -/
lemma grows_marks (marks : List Mark) (b : Builder) : b.Grows (Builder.marks marks b).2 :=
  (grows_align _ 4 b).trans ((grows_prepend _ _).trans (grows_number 4 _ _))

/-- A list of distances leads to its marks. -/
lemma kept_marks {marks : List Mark} {l : List α} {table : Buffer → α → Nat → Prop}
    (h : List.Forall₂ (fun m a => b.Kept m fun buffer => table buffer a) marks l) :
    (Builder.marks marks b).2.Kept (Builder.marks marks b).1 fun buffer =>
      TablesAt buffer (table buffer) l := by
  have hlength := h.length_eq
  set start := (b.align (marks.length * 4) 4).used + marks.length * 4 with hstart
  have hpieces : ∀ x ∈ distancesFrom start marks, x.length = 4 :=
    fun x hx => length_of_mem_distancesFrom hx
  have hbody : (distancesFrom start marks).flatten.length = marks.length * 4 := by
    rw [length_flatten_of_forall hpieces, length_distancesFrom]
  refine (kept_counted hbody b).imp 1 (by decide) (Nat.mod_one _)
    fun buffer p hends hend _ ⟨hp, hhas⟩ => ?_
  rw [used_counted hbody] at hend
  rw [hlength] at hhas
  refine listAt_of_has (by rw [length_distancesFrom, hlength]) hpieces (by decide) hends.size hp
    hhas fun i hi x hx hpiece => ?_
  have hi' : i < marks.length := hlength ▸ hi
  rw [getElem?_distancesFrom, List.getElem?_eq_getElem hi'] at hx
  obtain rfl := Option.some.inj hx
  have hmark : b.Kept marks[i] fun buffer => table buffer l[i] := h.get hi' hi
  have hkept := hmark.of_suffix (grows_marks marks b).suffix
  have hle := hmark.le
  have halign := used_align (marks.length * 4) 4 b
  refine linkAt_of_has (m := marks[i]) (by omega) ?_ ?_ hends.size (hkept.stands buffer hends)
  · rwa [show buffer.size - (p + 4 + i * 4) = start - 4 * i by omega]
  · omega

end Builder

end TagCatalog.Table
