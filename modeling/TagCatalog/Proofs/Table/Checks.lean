import Mathlib.Tactic
import TagCatalog.Table.Reader
import TagCatalog.Table.Verifier

/-!
What a check of a table response lets pass, a reader reads.

Checks and readers are written apart, and each finds its own way to a field. Here they
are put side by side, part by part: a check that lets a part pass leaves nothing to the
reader of this part that lies outside the response.

* `View.Inside`: a reader that reads bytes of a buffer only. It answers, and whatever
  bytes follow those of the buffer, it answers the same.
* `Check.Ensures`: what holds whenever a check lets pass; `Ensures.bind` is the rule
  for one check after another.
* `ensures_table`, `ensures_ifField`: a table and its fields. The verifier asks whether
  a slot begins inside the index, the reader whether it ends there; this is the same as
  long as slots and indexes are even.
* `ensures_text`, `ensures_list`, `ensures_tableList`: what a distance leads to.
-/

namespace TagCatalog.Table

open Wire

variable {α β : Type}

/-! ### Bytes of a buffer -/

namespace Buffer

/-- A number that is there is there as well when more bytes follow. -/
lemma uint?_append {b : Buffer} {p width n : Nat} (h : b.uint? p width = some n) (rest : Buffer) :
    uint? (b ++ rest) p width = some n := by
  induction width generalizing p n with
  | zero => exact h
  | succ width ih =>
    rw [uint?] at h ⊢
    obtain ⟨low, hlow, h⟩ := Option.bind_eq_some_iff.1 h
    obtain ⟨high, hhigh, h⟩ := Option.bind_eq_some_iff.1 h
    obtain ⟨hp, -⟩ := Array.getElem?_eq_some_iff.1 hlow
    rw [Array.getElem?_append_left hp, hlow, Option.bind_eq_bind, Option.bind_some, ih hhigh]
    exact h

/-- A number has no more digits than bytes. -/
lemma uint?_lt {b : Buffer} {p width n : Nat} (h : b.uint? p width = some n) :
    n < byteCapacity width := by
  induction width generalizing p n with
  | zero =>
    cases h
    exact Nat.one_pos
  | succ width ih =>
    rw [uint?] at h
    obtain ⟨low, -, h⟩ := Option.bind_eq_some_iff.1 h
    obtain ⟨high, hhigh, h⟩ := Option.bind_eq_some_iff.1 h
    cases h
    have hlow : low.toNat < 256 := low.toNat_lt
    have hih := ih hhigh
    rw [byteCapacity]
    omega

/-- A number is there if its bytes are. -/
lemma exists_uint? {b : Buffer} {p width : Nat} (h : p + width ≤ b.size) :
    ∃ n, b.uint? p width = some n := by
  induction width generalizing p with
  | zero => exact ⟨0, rfl⟩
  | succ width ih =>
    obtain ⟨high, hhigh⟩ := ih (p := p + 1) (by omega)
    have hp : p < b.size := by omega
    exact ⟨_, by rw [uint?, Array.getElem?_eq_getElem hp, hhigh]; rfl⟩

/-- Bytes that are there are the same when more follow. -/
lemma slice_append {b : Buffer} {start stop : Nat} (h : stop ≤ b.size) (rest : Buffer) :
    slice (b ++ rest) start stop = b.slice start stop := by
  rw [slice, slice, Array.extract_append, Nat.sub_eq_zero_of_le h]
  simp

/-- So many bytes as are asked for, if they are there. -/
lemma length_slice {b : Buffer} {start stop : Nat} (h : stop ≤ b.size) :
    (b.slice start stop).length = stop - start := by
  rw [slice, Array.length_toList, Array.size_extract, Nat.min_eq_left h]

end Buffer

/-! ### Readers that stay inside -/

namespace View

/-- A reader that reads bytes of a buffer only: it answers, and answers the same
whatever bytes follow. -/
def Inside (b : Buffer) (read : Buffer → Reads α) : Prop :=
  ∃ a, ∀ rest, read (b ++ rest) = .ok a

variable {b : Buffer}

/-- A number that is there is read. -/
lemma uint_append {p width n : Nat} (h : b.uint? p width = some n) (rest : Buffer) :
    uint (b ++ rest) p width = .ok n := by
  rw [uint, Buffer.uint?_append h]

/-- A number of 32 bits is inside if its bytes are. -/
lemma inside_word {p : Nat} (h : p + 4 ≤ b.size) : Inside b (word · p) := by
  obtain ⟨n, hn⟩ := Buffer.exists_uint? h
  refine ⟨UInt32.ofNat n, fun rest => ?_⟩
  simp only [word, uint_append hn]
  rfl

/-- A hash is inside if its bytes are. -/
lemma inside_hash {p : Nat} (h : p + ImageHash.size ≤ b.size) : Inside b (hash · p) := by
  have hlength : (b.slice p (p + ImageHash.size)).length = ImageHash.size := by
    rw [Buffer.length_slice h, Nat.add_sub_cancel_left]
  refine ⟨⟨_, hlength⟩, fun rest => ?_⟩
  have hread : ImageHash.ofBytes? (b.slice p (p + ImageHash.size)) = some ⟨_, hlength⟩ :=
    dif_pos hlength
  simp only [hash, Buffer.slice_append h, hread]

/-- Elements are inside if each of them is. -/
lemma inside_elements {size p n : Nat} {read : Buffer → Nat → Reads α}
    (h : ∀ i < n, Inside b (read · (p + i * size))) (done : List α) :
    Inside b fun b => elements size (read b) done p n := by
  induction n generalizing p done with
  | zero => exact ⟨done.reverse, fun _ => rfl⟩
  | succ n ih =>
    obtain ⟨a, ha⟩ := h 0 n.succ_pos
    rw [Nat.zero_mul, Nat.add_zero] at ha
    have hrest : ∀ i < n, Inside b (read · (p + size + i * size)) := by
      intro i hi
      have hnext := h (i + 1) (Nat.succ_lt_succ hi)
      rwa [Nat.succ_mul, Nat.add_comm (i * size), ← Nat.add_assoc] at hnext
    obtain ⟨l, hl⟩ := ih hrest (a :: done)
    refine ⟨l, fun rest => ?_⟩
    simp only [elements, ha]
    exact hl rest

end View

/-! ### What checks ensure -/

namespace Check

/-- Whenever the check lets pass, this holds of its answer. -/
def Ensures (c : Check α) (P : α → Prop) : Prop := ∀ s a s', c s = .ok (a, s') → P a

/-- Two checks run one after the other, the second only if the first lets pass. -/
lemma bind_apply (c : Check α) (f : α → Check β) (s : Budget) :
    (c >>= f) s = match c s with
      | .ok (a, s') => f a s'
      | .error e => .error e := by
  change (c s >>= fun p => f p.1 p.2) = _
  rcases c s with e | ⟨a, s'⟩ <;> rfl

section

variable {P : α → Prop} {Q : β → Prop}

/-- A check that only answers. -/
lemma ensures_pure {a : α} (h : P a) : Ensures (pure a) P := by
  rintro s a' s' ⟨⟩
  exact h

/-- Of a check that is not looked into, nothing is known. -/
lemma ensures_trivial (c : Check α) : Ensures c fun _ => True := fun _ _ _ _ => trivial

/-- A check that lets nothing pass ensures anything. -/
lemma ensures_throw (e : DecodeError) : Ensures (throw e) P := by
  rintro s a s' ⟨⟩

namespace Ensures

variable {c : Check α}

/-- What is ensured may be said more weakly. -/
lemma imp {P' : α → Prop} (h : Ensures c P) (hP : ∀ a, P a → P' a) : Ensures c P' :=
  fun s a s' e => hP a (h s a s' e)

/-- One check after another. -/
lemma bind {f : α → Check β} (h : Ensures c P) (hf : ∀ a, P a → Ensures (f a) Q) :
    Ensures (c >>= f) Q := by
  intro s b s' e
  rw [bind_apply] at e
  split at e
  next a s'' h' => exact hf a (h s a s'' h') s'' b s' e
  next => cases e

/-- The answer of a check is dropped, but what holds of it is not. -/
lemma discard (h : Ensures c P) : Ensures (Functor.discard c) fun _ => ∃ a, P a := by
  have hbind : Functor.discard c = c >>= fun _ => pure PUnit.unit := rfl
  rw [hbind]
  exact h.bind fun a ha => ensures_pure ⟨a, ha⟩

/-- The way to a part is told with a fault and changes nothing else. -/
lemma within {c : Check Unit} {P : Unit → Prop} (h : Ensures c P) (step : Step) :
    Ensures (within step c) P := by
  intro s a s' e
  rw [Check.within] at e
  cases hc : c s with
  | error e' =>
    rw [hc] at e
    cases e
  | ok r =>
    rw [hc] at e
    obtain rfl : r = (a, s') := Except.ok.inj e
    exact h s a s' hc

end Ensures

end

/-! ### Numbers and distances -/

variable {b : Buffer}

/-- Bytes that are asked for are there. -/
lemma ensures_range (b : Buffer) (start size : Nat) :
    Ensures (range b start size) fun _ => start + size ≤ b.size := by
  intro s a s' e
  rw [range] at e
  by_contra hlt
  rw [if_pos (Nat.lt_of_not_le hlt)] at e
  cases e

/-- A number stands at a multiple of its size. -/
lemma ensures_aligned (type : Scalar) (p : Nat) :
    Ensures (aligned type p) fun _ => p % type.size = 0 := by
  rw [aligned]
  split
  next => exact ensures_throw _
  next h => exact ensures_pure (not_not.1 h)

/-- A number is there, and stands at a multiple of its size. -/
lemma ensures_scalar (b : Buffer) (type : Scalar) (p : Nat) :
    Ensures (scalar b type p) fun n =>
      b.uint? p type.size = some n ∧ p % type.size = 0 ∧ p + type.size ≤ b.size := by
  refine (ensures_aligned type p).bind fun _ haligned => ?_
  refine (ensures_range b p type.size).bind fun _ hrange => ?_
  split
  next n h => exact ensures_pure ⟨h, haligned, hrange⟩
  next => exact ensures_throw _

/-- A distance is there, and the reader follows it to the same place. -/
lemma ensures_follow (b : Buffer) (p : Nat) :
    Ensures (follow b p) fun q => ∀ rest, View.follow (b ++ rest) p = .ok q := by
  refine (ensures_scalar b .u32 p).bind fun n hn => ensures_pure fun rest => ?_
  have hread : View.uint (b ++ rest) p 4 = .ok n := View.uint_append hn.1 rest
  rw [View.follow, hread]
  rfl

/-! ### Tables -/

/-- A table whose field index the reader finds as well. -/
structure Place.At (b : Buffer) (p : Nat) (t : Place) : Prop where
  position : t.position = p
  index : ∀ rest, View.index (b ++ rest) p = .ok t.index
  indexLength : ∀ rest, View.uint (b ++ rest) t.index 2 = .ok t.indexLength
  even : t.indexLength % 2 = 0

/-- The reader finds the field index of a table. -/
lemma ensures_table (b : Buffer) (p : Nat) : Ensures (table b p) (Place.At b p) := by
  refine (ensures_scalar b .i32 p).bind fun n hn => ?_
  dsimp only
  split
  next => exact ensures_throw _
  next hinside =>
    obtain ⟨hnonneg, -⟩ := not_or.1 hinside
    refine (ensures_scalar b .u16 _).bind fun length hlength => ?_
    refine (ensures_aligned .u16 _).bind fun _ heven => ?_
    refine (ensures_range b _ length).bind fun _ _ => ?_
    refine (ensures_trivial countTable).bind fun _ _ => ensures_pure ?_
    refine ⟨rfl, fun rest => ?_, View.uint_append hlength.1, ?_⟩
    · have hread : View.uint (b ++ rest) p 4 = .ok n := View.uint_append hn.1 rest
      rw [View.index, hread]
      exact if_neg hnonneg
    · have hindex : ((p : Int) - signed32 n).toNat % 2 = 0 := hlength.2.1
      have hsum : (((p : Int) - signed32 n).toNat + length) % 2 = 0 := heven
      show length % 2 = 0
      omega

/-- The reader finds a field where the check has found it. The check asks whether the
slot begins in the index, the reader whether it ends there. -/
lemma ensures_field {t : Place} {p : Nat} (ht : t.At b p) {slot : Nat} (hslot : slot % 2 = 0) :
    Ensures (field b t slot) fun f => ∀ rest, View.field (b ++ rest) p slot = .ok f := by
  have heven := ht.even
  rw [field]
  split
  next hlt =>
    -- between an even slot and an even end there is room for the slot
    have hend : slot + 2 ≤ t.indexLength := by
      have hbegin : slot < t.indexLength := hlt
      omega
    refine (ensures_scalar b .u16 (t.index + slot)).bind fun distance hd => ?_
    refine ensures_pure fun rest => ?_
    have hdistance : View.uint (b ++ rest) (t.index + slot) 2 = .ok distance :=
      View.uint_append hd.1 rest
    rw [View.field, ht.index, ht.position]
    simp only [bind, Except.bind, ht.indexLength, hdistance, if_pos hend]
    rfl
  next hge =>
    refine ensures_pure fun rest => ?_
    have hend : ¬ slot + 2 ≤ t.indexLength := by
      have hbegin : ¬ slot < t.indexLength := hge
      omega
    rw [View.field, ht.index]
    simp only [bind, Except.bind, ht.indexLength, if_neg hend]
    rfl

/-- A field that is checked is read inside, if the table has it. -/
lemma ensures_ifField {t : Place} {p : Nat} (ht : t.At b p) {slot : Nat} (hslot : slot % 2 = 0)
    {name : String} {check : Nat → Check Unit} {read : Buffer → Nat → View.Reads α}
    (h : ∀ q, Ensures (check q) fun _ => View.Inside b (read · q)) :
    Ensures (ifField b t slot name check) fun _ =>
      View.Inside b fun b => View.optional b p slot (read b) := by
  refine (ensures_field ht hslot).bind fun f hf => ?_
  cases f with
  | none =>
    refine ensures_pure ⟨none, fun rest => ?_⟩
    simp only [View.optional, hf]
    rfl
  | some q =>
    refine ((h q).within _).imp fun _ hread => ?_
    obtain ⟨a, ha⟩ := hread
    refine ⟨some a, fun rest => ?_⟩
    simp only [View.optional, hf]
    exact congrArg (some <$> ·) (ha rest)

/-! ### What distances lead to -/

/-- A number of 32 bits is read inside. -/
lemma ensures_word (b : Buffer) (p : Nat) :
    Ensures (Functor.discard (scalar b .u32 p)) fun _ => View.Inside b (View.word · p) := by
  refine (ensures_scalar b .u32 p).discard.imp fun _ h => ?_
  obtain ⟨n, -, -, hrange⟩ := h
  exact View.inside_word hrange

/-- A list has its elements, and the reader finds them. -/
lemma ensures_list (b : Buffer) (size : Nat) (type : Scalar) (p : Nat) :
    Ensures (list b size type p) fun l => l.1 = p + 4 ∧ l.1 + l.2 * size ≤ b.size ∧
      ∀ rest, View.uint (b ++ rest) p 4 = .ok l.2 := by
  refine (ensures_scalar b .u32 p).bind fun n hn => ?_
  refine (ensures_aligned type (p + 4)).bind fun _ _ => ?_
  refine (ensures_range b (p + 4) (n * size)).bind fun _ hrange => ?_
  exact ensures_pure ⟨rfl, hrange, View.uint_append hn.1⟩

/-- A list of elements of a fixed width is read inside. -/
lemma ensures_elements {size : Nat} {type : Scalar} {read : Buffer → Nat → View.Reads α}
    (h : ∀ q, q + size ≤ b.size → View.Inside b (read · q)) (p : Nat) :
    Ensures (follow b p >>= fun q => Functor.discard (list b size type q)) fun _ =>
      View.Inside b fun b => View.list b size (read b) p := by
  refine (ensures_follow b p).bind fun q hq => ?_
  refine (ensures_list b size type q).discard.imp fun _ hl => ?_
  obtain ⟨⟨start, n⟩, rfl, hrange, hn⟩ := hl
  have hinside : ∀ i < n, View.Inside b (read · (q + 4 + i * size)) := by
    intro i hi
    have hle := Nat.mul_le_mul_right size (Nat.succ_le_of_lt hi)
    have hstop : q + 4 + n * size ≤ b.size := hrange
    rw [Nat.succ_mul] at hle
    exact h _ (by omega)
  obtain ⟨l, hl⟩ := View.inside_elements hinside []
  refine ⟨l, fun rest => ?_⟩
  simp only [View.list, hq, bind, Except.bind, hn]
  exact hl rest

/-- A text is read inside. -/
lemma ensures_text (b : Buffer) (p : Nat) :
    Ensures (follow b p >>= text b) fun _ => View.Inside b (View.text · p) := by
  refine (ensures_follow b p).bind fun q hq => ?_
  refine (ensures_list b 1 .u8 q).bind fun l hl => ?_
  obtain ⟨start, n⟩ := l
  obtain ⟨rfl, hrange, hn⟩ := hl
  have hstop : q + 4 + n ≤ b.size := by simpa using hrange
  have hlength : (b.slice (q + 4) (q + 4 + n)).length = n := by
    rw [Buffer.length_slice hstop, Nat.add_sub_cancel_left]
  dsimp only
  split
  next => exact ensures_throw _
  next s hs =>
    refine (ensures_trivial _).imp fun _ _ => ⟨s, fun rest => ?_⟩
    simp only [View.text, hq, bind, Except.bind, hn, Buffer.slice_append hstop, hlength, if_true,
      hs]
    rfl

section

variable {check : Nat → Check Unit} {read : Buffer → Nat → View.Reads α}
  (h : ∀ q, Ensures (check q) fun _ => View.Inside b (read · q))

include h

/-- Tables that are checked one after another are read inside one after another. -/
lemma ensures_tables (index p n : Nat) (done : List α) :
    Ensures (tables b check index p n) fun _ =>
      View.Inside b fun b => View.elements 4 (fun p => do read b (← View.follow b p)) done p n := by
  induction n generalizing index p done with
  | zero => exact ensures_pure ⟨done.reverse, fun _ => rfl⟩
  | succ n ih =>
    have hfirst : Ensures (follow b p >>= check) fun _ =>
        View.Inside b fun b => View.follow b p >>= read b := by
      refine (ensures_follow b p).bind fun q hq => (h q).imp fun _ hread => ?_
      obtain ⟨a, ha⟩ := hread
      refine ⟨a, fun rest => ?_⟩
      simp only [hq, bind, Except.bind]
      exact ha rest
    refine (hfirst.within _).bind fun _ hread => ?_
    obtain ⟨a, ha⟩ := hread
    refine (ih (index + 1) (p + 4) (a :: done)).imp fun _ hrest => ?_
    obtain ⟨l, hl⟩ := hrest
    refine ⟨l, fun rest => ?_⟩
    simp only [View.elements, ha]
    exact hl rest

/-- A list of tables is read inside. -/
lemma ensures_tableList (p : Nat) :
    Ensures (follow b p >>= tableList b check) fun _ =>
      View.Inside b fun b => View.tables b (read b) p := by
  refine (ensures_follow b p).bind fun q hq => ?_
  refine (ensures_list b 4 .u32 q).bind fun l hl => ?_
  obtain ⟨start, n⟩ := l
  obtain ⟨rfl, -, hn⟩ := hl
  refine (ensures_tables h 0 (q + 4) n []).imp fun _ hread => ?_
  obtain ⟨l, hl⟩ := hread
  refine ⟨l, fun rest => ?_⟩
  simp only [View.tables, View.list, hq, bind, Except.bind, hn]
  exact hl rest

end

end Check

end TagCatalog.Table
