import Mathlib.Tactic
import TagCatalog.Proofs.Table.Expense
import TagCatalog.Proofs.Table.Extension
import TagCatalog.Wire.FieldList

/-!
No more is read than is visited.

A foreign response may lead to one table, or to one text, in many ways. It is visited as often as it
is read, so that the limits on tables visited and on bytes referred to are limits on what is read.

* `Document.content`: what a document holds, in bytes.
* `Check.Visits`: a check that, if it passes, has visited so many tables more and referred to so
  many bytes more, and no more in all than it may.
* `visits_tag`, `visits_image`, `visits_response`: the checks visit the tables of what is read, and
  refer to the bytes that it holds.
* `tables_cost_le_of_verify`: of a verified response no more tables are read than may be visited.
-/

namespace TagCatalog.Table

open Wire

variable {α β π : Type}

/-! ### What a document holds -/

/-- What an attribute value holds, in bytes: its key and its text. -/
def AttributeEntry.content (e : AttributeEntry π) : Nat := e.key.utf8ByteSize + e.value.utf8ByteSize

/-- What an image holds, in bytes: its id, its hash and its attribute values. The names of its tags
are looked up and not kept. -/
def ImageEntry.content (i : ImageEntry π) : Nat :=
  i.id.elim 0 (fun _ => FieldList.idWidth) + i.hash.elim 0 (fun _ => ImageHash.size) +
    i.attributes.elim 0 fun l => (l.map AttributeEntry.content).sum

/-- What a document holds, in bytes. -/
def Document.content : Document π → Nat
  | .nothing => 0
  | .ids l => l.length * FieldList.idWidth
  | .hashes l => l.length * ImageHash.size
  | .images l => (l.map ImageEntry.content).sum

/-- The least that is spent on a tag, whose name is not kept. -/
def TagEntry.weight (_ : TagEntry π) : Budget := ⟨0, 1⟩

/-- The least that is spent on an attribute value. -/
def AttributeEntry.weight (e : AttributeEntry π) : Budget := ⟨e.content, 1⟩

/-- The least that is spent on an image. -/
def ImageEntry.weight (i : ImageEntry π) : Budget := ⟨i.content, i.cost.tables⟩

/-- The least that is spent on a document. -/
def Document.weight (document : Document π) : Budget := ⟨document.content, document.cost.tables⟩

namespace Budget

instance : LE Budget := ⟨fun s t => s.apparent ≤ t.apparent ∧ s.tables ≤ t.tables⟩

/-- Bytes are counted one by one. -/
lemma apparent_sum (l : List Budget) : l.sum.apparent = (l.map Budget.apparent).sum := by
  induction l with
  | nil => rfl
  | cons s l ih => rw [List.sum_cons, apparent_add, ih, List.map_cons, List.sum_cons]

/-- What is spent besides may be left out of account. -/
protected lemma add_left_cancel {s t u : Budget} (h : s + t = s + u) : t = u :=
  Budget.ext (Nat.add_left_cancel (congrArg apparent h)) (Nat.add_left_cancel (congrArg tables h))

end Budget

/-- The least that is spent on tags one after another. -/
lemma TagEntry.sum_weight (l : List (TagEntry π)) : (l.map weight).sum = ⟨0, l.length⟩ := by
  refine Budget.ext ?_ ?_
  · rw [Budget.apparent_sum, List.map_map]
    simp [Function.comp_def, weight]
  · rw [Budget.tables_sum, List.map_map]
    simp [Function.comp_def, weight]

/-- The least that is spent on attribute values one after another. -/
lemma AttributeEntry.sum_weight (l : List (AttributeEntry π)) :
    (l.map weight).sum = ⟨(l.map content).sum, l.length⟩ := by
  refine Budget.ext ?_ ?_
  · rw [Budget.apparent_sum, List.map_map]
    rfl
  · rw [Budget.tables_sum, List.map_map]
    simp [Function.comp_def, weight]

/-- The least that is spent on images one after another. -/
lemma ImageEntry.sum_weight (l : List (ImageEntry π)) :
    (l.map weight).sum = ⟨(l.map content).sum, (l.map fun i => i.cost.tables).sum⟩ := by
  refine Budget.ext ?_ ?_
  · rw [Budget.apparent_sum, List.map_map]
    rfl
  · rw [Budget.tables_sum, List.map_map]
    rfl

namespace Check

/-- A check that, if it passes, has spent at least so much more, and no more in all than it may. -/
def Visits (c : Check α) (n : Budget) : Prop := ∀ s a s', c s = .ok (a, s') →
  s + n ≤ s' ∧ (s.Fits → s'.Fits)

/-- A check that only answers visits nothing. -/
lemma visits_pure (a : α) : Visits (pure a) 0 := by
  rintro s _ _ ⟨⟩
  exact ⟨⟨le_rfl, le_rfl⟩, id⟩

/-- Of a check that lets nothing pass anything may be said. -/
lemma visits_throw (e : DecodeError) (n : Budget) : Visits (throw e : Check α) n := by
  rintro s _ _ ⟨⟩

namespace Visits

variable {c : Check α} {n m : Budget}

/-- The visits of checks that follow each other add up. -/
lemma bind {f : α → Check β} {P : α → Prop} (h : Visits c n) (hP : Ensures c P)
    (hf : ∀ a, P a → Visits (f a) m) : Visits (c >>= f) (n + m) := by
  intro s b s' e
  rw [bind_apply] at e
  split at e
  next a s'' h' =>
    obtain ⟨⟨hbytes, htables⟩, hmost⟩ := h s a s'' h'
    obtain ⟨⟨hbytes', htables'⟩, hmost'⟩ := hf a (hP s a s'' h') s'' b s' e
    simp only [Budget.apparent_add, Budget.tables_add] at hbytes htables hbytes' htables'
    refine ⟨⟨?_, ?_⟩, hmost' ∘ hmost⟩
    · rw [Budget.apparent_add, Budget.apparent_add]
      omega
    · rw [Budget.tables_add, Budget.tables_add]
      omega
  next => cases e

/-- Visits may be counted otherwise. -/
lemma of_eq (h : Visits c n) (hn : n = m) : Visits c m := hn ▸ h

/-- Visits may be left out of account. -/
lemma zero (h : Visits c n) : Visits c 0 := by
  intro s a s' e
  obtain ⟨⟨hbytes, htables⟩, hmost⟩ := h s a s' e
  exact ⟨⟨Nat.le_of_add_right_le hbytes, Nat.le_of_add_right_le htables⟩, hmost⟩

/-- The visits after a check, where its own are left out of account. -/
lemma after {f : α → Check β} {P : α → Prop} (h : Visits c n) (hP : Ensures c P)
    (hf : ∀ a, P a → Visits (f a) m) : Visits (c >>= f) m :=
  (h.zero.bind hP hf).of_eq (zero_add m)

/-- One check after another, whatever the first answers. -/
lemma seq {f : α → Check β} (h : Visits c n) (hf : ∀ a, Visits (f a) m) : Visits (c >>= f) m :=
  h.after (ensures_trivial c) fun a _ => hf a

/-- The answer of a check is dropped. -/
lemma discard (h : Visits c n) : Visits (Functor.discard c) n :=
  h.bind (ensures_trivial c) fun _ _ => visits_pure PUnit.unit

/-- The way to a part is told with a fault and changes nothing else. -/
lemma within {c : Check Unit} (h : Visits c n) (step : Step) : Visits (within step c) n := by
  intro s a s' e
  rw [Check.within] at e
  cases hc : c s with
  | error e' =>
    rw [hc] at e
    cases e
  | ok r =>
    rw [hc] at e
    obtain rfl : r = (a, s') := Except.ok.inj e
    exact h s a s' hc

end Visits

/-! ### Parts that are no tables -/

section

variable (b : Buffer)

/-- Bytes that are asked for are referred to. -/
lemma visits_range (start size : Nat) : Visits (range b start size) (.bytes size) := by
  intro s a s' e
  rw [range] at e
  split at e
  next => cases e
  next =>
    dsimp only at e
    split at e
    next => cases e
    next hlimit =>
      cases e
      exact ⟨⟨le_rfl, le_rfl⟩, fun hs => ⟨Nat.le_of_not_lt hlimit, hs.2⟩⟩

/-- A multiple is no table. -/
lemma visits_aligned (type : Scalar) (p : Nat) : Visits (aligned type p) 0 := by
  rw [aligned]
  split
  next => exact visits_throw _ 0
  next => exact visits_pure _

/-- A number is its bytes. -/
lemma visits_scalar (type : Scalar) (p : Nat) : Visits (scalar b type p) (.bytes type.size) := by
  refine (visits_aligned type p).seq fun _ => ?_
  refine ((visits_range b p _).bind (m := 0) (ensures_trivial _) fun _ _ => ?_).of_eq (add_zero _)
  split
  next n _ => exact visits_pure n
  next => exact visits_throw _ 0

/-- A number of 32 bits is four bytes. -/
lemma visits_word (p : Nat) : Visits (Functor.discard (scalar b .u32 p)) (.bytes 4) :=
  (visits_scalar b .u32 p).discard

/-- A distance is no table. -/
lemma visits_follow (p : Nat) : Visits (follow b p) 0 :=
  (visits_scalar b .u32 p).seq fun _ => visits_pure _

/-- A table is one. -/
lemma visits_countTable : Visits countTable ⟨0, 1⟩ := by
  intro s a s' e
  rw [countTable] at e
  split at e
  next => cases e
  next hlimit =>
    cases e
    exact ⟨⟨le_rfl, le_rfl⟩, fun hs => ⟨hs.1, Nat.le_of_not_lt hlimit⟩⟩

/-- A table is visited once with its index. -/
lemma visits_table (p : Nat) : Visits (table b p) ⟨0, 1⟩ := by
  refine (visits_scalar b .i32 p).seq fun n => ?_
  dsimp only
  split
  next => exact visits_throw _ _
  next =>
    refine (visits_scalar b .u16 _).seq fun length => (visits_aligned .u16 _).seq fun _ => ?_
    refine (visits_range b _ length).seq fun _ => ?_
    exact visits_countTable.bind (ensures_trivial _) fun _ _ => visits_pure _

/-- Looking up a field visits nothing. -/
lemma visits_field (t : Place) (slot : Slot) : Visits (field b t slot) 0 := by
  rw [field]
  split
  next => exact (visits_scalar b .u16 _).seq fun _ => visits_pure _
  next => exact visits_pure _

end

variable {b : Buffer} {p : Nat}

/-- The elements of a list are referred to. -/
lemma visits_list {n : Nat} (hn : View.uint b p 4 = .ok n) (size : Nat) (type : Scalar) :
    Visits (list b size type p) (.bytes (n * size)) := by
  refine (visits_scalar b .u32 p).after (ensures_scalar b .u32 p) fun n' hn' => ?_
  obtain rfl : n = n' := by
    rw [View.uint, show b.uint? p 4 = some n' from hn'.1] at hn
    exact (Except.ok.inj hn).symm
  refine (visits_aligned type _).seq fun _ => ?_
  exact ((visits_range b _ _).bind (ensures_trivial _) fun _ _ => visits_pure _).of_eq (add_zero _)

/-- What a distance leads to is visited where it is read. -/
lemma visits_followed {check : Nat → Check Unit} {n : Budget} {q : Nat}
    (hq : View.follow b p = .ok q) (h : Visits (check q) n) : Visits (follow b p >>= check) n := by
  refine (visits_follow b p).after (ensures_follow b p) fun q' hq' => ?_
  have hfollow : View.follow b p = .ok q' := by simpa using hq' #[]
  obtain rfl : q = q' := Except.ok.inj (hq.symm.trans hfollow)
  exact h

/-- The bytes of a text are referred to. -/
lemma visits_text {s : String} (hs : View.text b p = .ok s) :
    Visits (follow b p >>= text b) (.bytes s.utf8ByteSize) := by
  obtain ⟨q, hq, hs⟩ := bind_eq_ok_iff.1 hs
  obtain ⟨n, hn, hs⟩ := bind_eq_ok_iff.1 hs
  have hsize : s.utf8ByteSize = n := by
    dsimp only at hs
    split at hs
    next s' hdecode =>
      cases hs
      rw [Option.ite_none_right_eq_some, Utf8.decode?_eq_some_iff] at hdecode
      rw [← hdecode.1, hdecode.2, Utf8.length_encode]
    next => cases hs
  have hlist := (visits_list hn 1 .u8).of_eq (show _ = Budget.bytes s.utf8ByteSize by
    rw [hsize, Nat.mul_one])
  refine visits_followed hq ((hlist.bind (m := 0) (ensures_trivial _) fun l _ => ?_).of_eq
    (add_zero _))
  dsimp only
  split
  next => exact visits_throw _ 0
  next =>
    split
    next => exact visits_pure _
    next => exact visits_throw _ 0

/-- So many elements are read as there are. -/
lemma length_eq_of_elements {size n : Nat} {read : Nat → View.Reads α} {done l : List α}
    (h : View.elements size read done p n = .ok l) : l.length = done.length + n := by
  induction n generalizing p done with
  | zero =>
    cases h
    rw [List.length_reverse, Nat.add_zero]
  | succ n ih =>
    obtain ⟨a, -, hrest⟩ := bind_eq_ok_iff.1 h
    rw [ih hrest, List.length_cons]
    omega

/-- The elements of a list of one width are referred to as they are read. -/
lemma visits_elements {size : Nat} {type : Scalar} {read : Nat → View.Reads α} {l : List α}
    (hl : View.list b size read p = .ok l) :
    Visits (follow b p >>= fun q => Functor.discard (list b size type q))
      (.bytes (l.length * size)) := by
  obtain ⟨q, hq, hl⟩ := bind_eq_ok_iff.1 hl
  obtain ⟨n, hn, hl⟩ := bind_eq_ok_iff.1 hl
  have hlength : l.length = n := by simpa using length_eq_of_elements hl
  rw [hlength]
  exact visits_followed hq (visits_list hn size type).discard

/-! ### What is read of tables -/

section

variable {check : Nat → Check Unit} {read : Nat → View.Reads α} {count : α → Budget}
  (h : ∀ q a, read q = .ok a → Visits (check q) (count a))

include h

/-- A field is visited as what is read of it, if anything is. -/
lemma visits_ifField {t : Place} (ht : t.At b p) {slot : Nat} (hslot : slot % 2 = 0) (name : String)
    {o : Option α} (ho : View.optional b p slot read = .ok o) :
    Visits (ifField b t slot name check) (o.elim 0 count) := by
  refine (visits_field b t slot).after (ensures_field ht hslot) fun f hf => ?_
  have hfield : View.field b p slot = .ok f := by simpa using hf #[]
  rw [View.optional, hfield] at ho
  cases f with
  | none =>
    cases ho
    exact visits_pure ()
  | some q =>
    obtain ⟨a, ha, ⟨⟩⟩ := map_eq_ok_iff.1 ho
    exact (h q a ha).within _

/-- Tables are visited as what is read of them one after another. -/
lemma visits_tables (index p n : Nat) {done whole : List α}
    (hread : View.elements 4 (fun p => do read (← View.follow b p)) done p n = .ok whole) :
    ∃ m, Visits (tables b check index p n) m ∧
      (whole.map count).sum = (done.map count).sum + m := by
  induction n generalizing index p done with
  | zero =>
    cases hread
    exact ⟨0, visits_pure (), by rw [List.map_reverse, List.sum_reverse, add_zero]⟩
  | succ n ih =>
    obtain ⟨a, ha, hrest⟩ := bind_eq_ok_iff.1 hread
    obtain ⟨q, hq, ha⟩ := bind_eq_ok_iff.1 ha
    obtain ⟨m, hm, hsum⟩ := ih (index + 1) (p + 4) hrest
    have hfirst : Visits (follow b p >>= check) (count a) := visits_followed hq (h q a ha)
    refine ⟨count a + m, (hfirst.within _).bind (ensures_trivial _) fun _ _ => hm, ?_⟩
    rw [hsum, List.map_cons, List.sum_cons]
    abel

/-- A list of tables is visited as what is read of it. -/
lemma visits_tableList {l : List α} (hl : View.tables b read p = .ok l) :
    Visits (follow b p >>= tableList b check) (l.map count).sum := by
  obtain ⟨q, hq, hl⟩ := bind_eq_ok_iff.1 hl
  obtain ⟨n, hn, hl⟩ := bind_eq_ok_iff.1 hl
  refine visits_followed hq ((visits_list hn 4 .u32).after (ensures_list b 4 .u32 q) fun e he => ?_)
  obtain ⟨start, n'⟩ := e
  obtain ⟨rfl, -, hn'⟩ := he
  have hlength : View.uint b q 4 = .ok n' := by simpa using hn' #[]
  obtain rfl : n = n' := Except.ok.inj (hn.symm.trans hlength)
  obtain ⟨m, hm, hsum⟩ := visits_tables h 0 (q + 4) n hl
  exact hm.of_eq (by simpa using hsum.symm)

end

/-- A tag is one table. -/
lemma visits_tag {e : TagEntry Nat} (he : View.tag b p = .ok e) : Visits (tag b p) e.weight := by
  obtain ⟨name, hname, he⟩ := bind_eq_ok_iff.1 he
  obtain ⟨user, huser, -⟩ := bind_eq_ok_iff.1 he
  refine (visits_table b p).bind (m := 0) (ensures_table b p) fun t ht => ?_
  refine (visits_ifField (fun _ _ => visits_text) ht (by decide) _ hname).seq fun _ => ?_
  exact (visits_ifField (fun q _ _ => visits_word b q) ht (by decide) _ huser).zero

/-- An attribute value is one table with its key and its text. -/
lemma visits_keyedValue {e : AttributeEntry Nat} (he : View.keyedValue b p = .ok e) :
    Visits (keyedValue b p) e.weight := by
  obtain ⟨key, hkey, he⟩ := bind_eq_ok_iff.1 he
  obtain ⟨value, hvalue, he⟩ := bind_eq_ok_iff.1 he
  obtain ⟨user, huser, ⟨⟩⟩ := bind_eq_ok_iff.1 he
  have hvisits : Visits (keyedValue b p) (⟨0, 1⟩ + (key.elim 0 (.bytes ·.utf8ByteSize) +
      (value.elim 0 (.bytes ·.utf8ByteSize) + 0))) := by
    refine (visits_table b p).bind (ensures_table b p) fun t ht => ?_
    refine (visits_ifField (fun _ _ => visits_text) ht (by decide) _ hkey).bind
      (ensures_trivial _) fun _ _ => ?_
    refine (visits_ifField (fun _ _ => visits_text) ht (by decide) _ hvalue).bind
      (ensures_trivial _) fun _ _ => ?_
    exact (visits_ifField (fun q _ _ => visits_word b q) ht (by decide) _ huser).zero
  refine hvisits.of_eq (Budget.ext ?_ ?_) <;> cases key <;> cases value <;>
    simp [AttributeEntry.weight, AttributeEntry.content]

/-- An image is as many tables as its cost says, with all that it holds. -/
lemma visits_image {i : ImageEntry Nat} (hi : View.image b p = .ok i) :
    Visits (image b p) i.weight := by
  obtain ⟨id, hid, hi⟩ := bind_eq_ok_iff.1 hi
  obtain ⟨hash, hhash, hi⟩ := bind_eq_ok_iff.1 hi
  obtain ⟨tags, htags, hi⟩ := bind_eq_ok_iff.1 hi
  obtain ⟨attributes, hattributes, ⟨⟩⟩ := bind_eq_ok_iff.1 hi
  have hvisits : Visits (image b p) (⟨0, 1⟩ + (id.elim 0 (fun _ => .bytes 4) +
      (hash.elim 0 (fun _ => .bytes ImageHash.size) +
        (tags.elim 0 (fun l => (l.map TagEntry.weight).sum) +
          attributes.elim 0 fun l => (l.map AttributeEntry.weight).sum)))) := by
    refine (visits_table b p).bind (ensures_table b p) fun t ht => ?_
    refine (visits_ifField (fun q _ _ => visits_word b q) ht (by decide) _ hid).bind
      (ensures_trivial _) fun _ _ => ?_
    refine (visits_ifField (fun q _ _ => visits_range b q _) ht (by decide) _ hhash).bind
      (ensures_trivial _) fun _ _ => ?_
    refine (visits_ifField (fun _ _ hl => visits_tableList (fun _ _ => visits_tag) hl) ht
      (by decide) _ htags).bind (ensures_trivial _) fun _ _ => ?_
    exact visits_ifField (fun _ _ hl => visits_tableList (fun _ _ => visits_keyedValue) hl) ht
      (by decide) _ hattributes
  refine hvisits.of_eq (Budget.ext ?_ ?_) <;>
    cases id <;> cases hash <;> cases tags <;> cases attributes <;>
    simp [ImageEntry.weight, ImageEntry.content, ImageEntry.tables_cost, TagEntry.sum_weight,
      AttributeEntry.sum_weight, FieldList.idWidth, Nat.add_assoc]

/-! ### Responses -/

/-- The items of a member are visited as what is read of them. -/
lemma visits_items {check : Nat → Check Unit} {read : Nat → View.Reads (List α)}
    (count : List α → Budget) (hnil : count [] = 0)
    (h : ∀ q l, read q = .ok l → Visits (follow b q >>= check) (count l)) (step : Step)
    (name : String) {l : List α} (hl : View.items b read p = .ok l) :
    Visits (items b step name check p) (⟨0, 1⟩ + count l) := by
  refine Visits.within ?_ step
  obtain ⟨q, hq, hl⟩ := bind_eq_ok_iff.1 hl
  obtain ⟨o, ho, ⟨⟩⟩ := bind_eq_ok_iff.1 hl
  refine visits_followed hq ((visits_table b q).bind (ensures_table b q) fun t ht => ?_)
  refine (visits_ifField h ht (by decide) name ho).of_eq ?_
  cases o with
  | none => exact hnil.symm
  | some l => rfl

/-- A member is visited as what is read of it. -/
lemma visits_member {kind : UInt8} {document : Document Nat}
    (hdocument : View.memberOf b kind p = .ok document) :
    ∃ m, Visits (member b kind.toNat p) m ∧ document.weight = ⟨0, 1⟩ + m := by
  rw [View.memberOf] at hdocument
  split_ifs at hdocument with hnothing hids hhashes himages
  · subst hnothing
    cases hdocument
    rw [member_of_ne b _ p (by decide) (by decide) (by decide)]
    exact ⟨0, visits_pure (), rfl⟩
  · subst hids
    obtain ⟨l, hl, rfl⟩ := map_eq_ok_iff.1 hdocument
    rw [member_ids]
    refine ⟨_, visits_items (fun l => .bytes (l.length * FieldList.idWidth)) rfl
      (fun _ _ => visits_elements) _ _ hl, Budget.ext ?_ (Document.tables_cost _)⟩
    simp [Document.weight, Document.content]
  · subst hhashes
    obtain ⟨l, hl, rfl⟩ := map_eq_ok_iff.1 hdocument
    rw [member_hashes]
    refine ⟨_, visits_items (fun l => .bytes (l.length * ImageHash.size)) rfl
      (fun _ _ => visits_elements) _ _ hl, Budget.ext ?_ (Document.tables_cost _)⟩
    simp [Document.weight, Document.content]
  · subst himages
    obtain ⟨l, hl, rfl⟩ := map_eq_ok_iff.1 hdocument
    rw [member_images]
    refine ⟨_, visits_items (fun l => (l.map ImageEntry.weight).sum) rfl
      (fun _ _ => visits_tableList fun _ _ => visits_image) _ _ hl, Budget.ext ?_ ?_⟩
    · simp [Document.weight, Document.content, ImageEntry.sum_weight]
    · rw [ImageEntry.sum_weight]
      exact (Document.tables_cost _).trans (Nat.add_assoc 1 1 _)

/-- A response is visited as the document that is read of it. -/
lemma visits_response {document : Document Nat} (h : View.document b = .ok document) :
    Visits (response b) document.weight := by
  obtain ⟨m, hm⟩ : ∃ m, document.weight = ⟨0, 1⟩ + m := by
    refine ⟨⟨document.content, document.cost.tables - 1⟩, Budget.ext (Nat.zero_add _).symm ?_⟩
    have htables := Document.tables_cost document
    show document.cost.tables = 1 + (document.cost.tables - 1)
    cases document <;> dsimp only at htables <;> omega
  rw [hm]
  refine (visits_follow b 0).after (ensures_follow b 0) fun root hroot => ?_
  refine (visits_table b root).bind (ensures_table b root) fun t ht => ?_
  refine (visits_field b t _).after (ensures_field ht (by decide)) fun data hdata => ?_
  refine (visits_field b t _).after (ensures_field ht (by decide)) fun kindAt hkindAt => ?_
  replace hroot : View.follow b 0 = .ok root := by simpa using hroot #[]
  replace hdata : View.field b root Slot.member = .ok data := by simpa using hdata #[]
  replace hkindAt : View.field b root Slot.memberKind = .ok kindAt := by simpa using hkindAt #[]
  cases data with
  | none =>
    cases kindAt with
    | none =>
      have hnothing := View.document_eq_nothing hroot hkindAt
      obtain rfl : document = .nothing := Except.ok.inj (h.symm.trans hnothing)
      obtain rfl : 0 = m := Budget.add_left_cancel (show (⟨0, 1⟩ : Budget) + 0 = ⟨0, 1⟩ + m from hm)
      exact visits_pure ()
    | some q => exact visits_throw _ m
  | some p =>
    cases kindAt with
    | none => exact visits_throw _ m
    | some q =>
      refine (visits_scalar b .u8 q).after (ensures_scalar b .u8 q) fun n hn => ?_
      obtain ⟨kind, rfl⟩ := View.exists_kind hn.1
      have hread : View.uint b q 1 = .ok kind.toNat := by
        rw [View.uint, show b.uint? q 1 = some kind.toNat from hn.1]
      have hkind := View.memberKind_eq hkindAt hread
      obtain ⟨m', hvisits, hm'⟩ :=
        visits_member ((View.document_eq hroot hkind hdata).symm.trans h)
      obtain rfl : m' = m := Budget.add_left_cancel (hm'.symm.trans hm)
      exact hvisits.within _

end Check

/-- What is read of a verified response has been spent on its checks, within the limits. -/
lemma weight_le_of_response {b : Buffer} {document : Document Nat} {spent : Budget}
    (hcheck : Check.response b ⟨0, 0⟩ = .ok ((), spent)) (h : View.document b = .ok document) :
    document.content ≤ spent.apparent ∧ document.cost.tables ≤ spent.tables ∧ spent.Fits := by
  obtain ⟨⟨hbytes, htables⟩, hmost⟩ := Check.visits_response h _ _ _ hcheck
  simp only [Budget.apparent_add, Budget.tables_add, Nat.zero_add, Document.weight]
    at hbytes htables
  exact ⟨hbytes, htables, hmost Budget.fits_zero⟩

/-- **Of a verified response no more tables are read than may be visited.** -/
lemma tables_cost_le_of_verify {b : Buffer} {document : Document Nat} (hverify : verify b = .ok ())
    (h : View.document b = .ok document) : document.cost.tables ≤ maxTables := by
  obtain ⟨s, hs⟩ := verify_eq_ok_iff.1 hverify
  obtain ⟨-, htables, hfits⟩ := weight_le_of_response hs h
  exact htables.trans hfits.2

end TagCatalog.Table
