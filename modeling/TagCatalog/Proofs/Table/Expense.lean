import Mathlib.Tactic
import TagCatalog.Proofs.Table.Layout

/-!
What it costs to verify a document that stands in a response.

A check spends bytes referred to and tables visited. Of a document that is laid out in full it
spends a fixed amount, whatever the layout, so that verifying it comes down to the limits.

* `Budget.Fits`: what may be spent on a response.
* `Check.Spends`: a check that passes at a fixed expense if the budget has room for it, and is
  refused for want of room if not; `Spends.bind` adds the expenses of checks that follow each
  other.
* `tableCost`, `Document.cost`: the expense of a table and of a document.
* `Check.spends_response`: a document that stands in a response is verified at its cost.
-/

namespace TagCatalog.Table

open Wire

variable {α β π : Type}

/-! ### Budgets -/

namespace Budget

attribute [ext] Budget

/-- So many bytes and no table. -/
def bytes (n : Nat) : Budget := ⟨n, 0⟩

instance : Zero Budget := ⟨⟨0, 0⟩⟩

instance : Add Budget := ⟨fun s t => ⟨s.apparent + t.apparent, s.tables + t.tables⟩⟩

@[simp] lemma apparent_zero : (0 : Budget).apparent = 0 := rfl

@[simp] lemma tables_zero : (0 : Budget).tables = 0 := rfl

@[simp] lemma apparent_add (s t : Budget) : (s + t).apparent = s.apparent + t.apparent := rfl

@[simp] lemma tables_add (s t : Budget) : (s + t).tables = s.tables + t.tables := rfl

@[simp] lemma apparent_bytes (n : Nat) : (bytes n).apparent = n := rfl

@[simp] lemma tables_bytes (n : Nat) : (bytes n).tables = 0 := rfl

instance : AddCommMonoid Budget where
  add_assoc s t u := Budget.ext (Nat.add_assoc ..) (Nat.add_assoc ..)
  zero_add s := Budget.ext (Nat.zero_add _) (Nat.zero_add _)
  add_zero s := rfl
  add_comm s t := Budget.ext (Nat.add_comm ..) (Nat.add_comm ..)
  nsmul := nsmulRec

/-- What may be spent on a response. -/
def Fits (s : Budget) : Prop := s.apparent ≤ maxResponseSize ∧ s.tables ≤ maxTables

instance (s : Budget) : Decidable s.Fits := inferInstanceAs (Decidable (_ ∧ _))

/-- If more may be spent, less may be. -/
lemma Fits.of_add {s t : Budget} (h : (s + t).Fits) : s.Fits :=
  ⟨Nat.le_of_add_right_le h.1, Nat.le_of_add_right_le h.2⟩

/-- Nothing spent is within the limits. -/
lemma fits_zero : (0 : Budget).Fits := ⟨Nat.zero_le _, Nat.zero_le _⟩

end Budget

/-! ### The cost of a document -/

/-- The cost of a slot of a table: it is looked up if the index reaches it, and its field costs
what it costs. -/
def slotCost (length : Nat) (e : Slot × Option Budget) : Budget :=
  (if e.1 + 2 ≤ length then .bytes 2 else 0) + e.2.getD 0

/-- The cost of a table, given by what it costs at each of its slots. Its index is referred to as
a whole, and its length and each of its slots once more. -/
def tableCost (slots : List (Slot × Option Budget)) : Budget :=
  ⟨6 + indexLength slots, 1⟩ + (slots.map (slotCost (indexLength slots))).sum

/-- The cost of a distance and of what it leads to. -/
def linkCost (target : Budget) : Budget := .bytes 4 + target

/-- The cost of a list of so many elements of `size` bytes. -/
def listCost (size n : Nat) : Budget := .bytes (4 + n * size)

/-- The cost of a text. The zero byte behind it is not counted. -/
def textCost (s : String) : Budget := listCost 1 (Utf8.encode s).length

/-- The cost of a list of distances to tables. -/
def tablesCost (cost : α → Budget) (l : List α) : Budget :=
  listCost 4 l.length + (l.map fun a => linkCost (cost a)).sum

/-- The cost of a tag. -/
def TagEntry.cost (e : TagEntry π) : Budget :=
  tableCost [(Slot.tagName, some (linkCost (textCost e.name))),
    (Slot.tagUser, (writtenUser e.user).map fun _ => .bytes 4)]

/-- The cost of an attribute value. -/
def AttributeEntry.cost (e : AttributeEntry π) : Budget :=
  tableCost [(Slot.attributeKey, some (linkCost (textCost e.key))),
    (Slot.attributeValue, some (linkCost (textCost e.value))),
    (Slot.attributeUser, (writtenUser e.user).map fun _ => .bytes 4)]

/-- The cost of an image. -/
def ImageEntry.cost (i : ImageEntry π) : Budget :=
  tableCost [(Slot.imageId, i.id.map fun _ => .bytes 4),
    (Slot.imageHash, i.hash.map fun _ => .bytes ImageHash.size),
    (Slot.imageTags, i.tags.map fun l => linkCost (tablesCost TagEntry.cost l)),
    (Slot.imageAttributes, i.attributes.map fun l => linkCost (tablesCost AttributeEntry.cost l))]

/-- The cost of the items of a document's member, if it has one. -/
def Document.itemsCost : Document π → Option Budget
  | .nothing => none
  | .ids l => some (listCost 4 l.length)
  | .hashes l => some (listCost ImageHash.size l.length)
  | .images l => some (tablesCost ImageEntry.cost l)

/-- The cost of a member with items of this cost. -/
def memberCost (items : Budget) : Budget := tableCost [(Slot.items, some (linkCost items))]

/-- The cost of a document: the bytes that its verification refers to, and the tables that it
visits. -/
def Document.cost (document : Document π) : Budget :=
  linkCost (tableCost [(Slot.member, document.itemsCost.map fun k => linkCost (memberCost k)),
    (Slot.memberKind, document.itemsCost.map fun _ => .bytes 1)])

/-! ### The tables of a document -/

/-- Tables are counted one by one. -/
lemma Budget.tables_sum (l : List Budget) : l.sum.tables = (l.map Budget.tables).sum := by
  induction l with
  | nil => rfl
  | cons s l ih => rw [List.sum_cons, Budget.tables_add, ih, List.map_cons, List.sum_cons]

/-- Looking up a slot visits what its field leads to. -/
lemma tables_slotCost (length : Nat) (e : Slot × Option Budget) :
    (slotCost length e).tables = (e.2.getD 0).tables := by
  rw [slotCost, Budget.tables_add]
  split <;> simp

/-- A table is visited once, and so is what its fields lead to. -/
lemma tables_tableCost (slots : List (Slot × Option Budget)) :
    (tableCost slots).tables = 1 + (slots.map fun e => (e.2.getD 0).tables).sum := by
  rw [tableCost, Budget.tables_add, Budget.tables_sum, List.map_map]
  exact congrArg (fun l : List Nat => 1 + l.sum)
    (List.map_congr_left fun e _ => tables_slotCost _ e)

/-- Of a list the tables are visited that it leads to. -/
lemma tables_tablesCost (cost : α → Budget) (l : List α) :
    (tablesCost cost l).tables = (l.map fun a => (cost a).tables).sum := by
  rw [tablesCost, Budget.tables_add, Budget.tables_sum, List.map_map]
  simp [listCost, linkCost, Function.comp_def]

/-- A tag is one table. -/
@[simp] lemma TagEntry.tables_cost (e : TagEntry π) : e.cost.tables = 1 := by
  rw [cost, tables_tableCost]
  cases writtenUser e.user <;> rfl

/-- An attribute value is one table. -/
@[simp] lemma AttributeEntry.tables_cost (e : AttributeEntry π) : e.cost.tables = 1 := by
  rw [cost, tables_tableCost]
  cases writtenUser e.user <;> rfl

/-- An image is a table with those of its tags and attribute values. -/
lemma ImageEntry.tables_cost (i : ImageEntry π) :
    i.cost.tables = 1 + ((i.tags.getD []).length + (i.attributes.getD []).length) := by
  rw [cost, tables_tableCost]
  cases i.id <;> cases i.hash <;> cases i.tags <;> cases i.attributes <;>
    simp [linkCost, tables_tablesCost]

/-- A document is its root table, that of its member and those of its images. -/
lemma Document.tables_cost (document : Document π) :
    document.cost.tables = match document with
      | .nothing => 1
      | .ids _ | .hashes _ => 2
      | .images l => 2 + (l.map fun i => i.cost.tables).sum := by
  have hmember (k : Budget) : (linkCost (memberCost k)).tables = 1 + k.tables := by
    simp [memberCost, tables_tableCost, linkCost]
  rw [cost, linkCost, Budget.tables_add, tables_tableCost]
  cases document with
  | nothing => rfl
  | ids l => rfl
  | hashes l => rfl
  | images l =>
    have hitems := hmember (tablesCost ImageEntry.cost l)
    rw [tables_tablesCost] at hitems
    simp only [itemsCost, List.map_cons, List.map_nil, List.sum_cons, List.sum_nil, Option.map_some,
      Option.getD_some, Budget.tables_bytes, hitems]
    omega

/-! ### Checks at a fixed expense -/

namespace Check

/-- A check that passes at a fixed expense if this may still be spent, and that is refused for a
limit if not. -/
structure Spends (c : Check α) (a : α) (cost : Budget) : Prop where
  passes : ∀ s, (s + cost).Fits → c s = .ok (a, s + cost)
  refuses : ∀ s, s.Fits → ¬ (s + cost).Fits →
    ∃ f : Fault, f.hasPlace = false ∧ c s = .error (fault 0 f)

/-- A check that only answers costs nothing. -/
lemma spends_pure (a : α) : Spends (pure a) a 0 where
  passes s _ := by
    rw [add_zero]
    rfl
  refuses s hs hcost := by
    rw [add_zero] at hcost
    exact absurd hs hcost

namespace Spends

variable {c : Check α} {a : α} {k k' : Budget}

/-- The expenses of checks that follow each other add up. -/
lemma bind {f : α → Check β} {a' : β} (h : Spends c a k) (hf : Spends (f a) a' k') :
    Spends (c >>= f) a' (k + k') where
  passes s hs := by
    rw [← add_assoc] at hs ⊢
    rw [bind_apply, h.passes s hs.of_add]
    exact hf.passes _ hs
  refuses s hs hcost := by
    rw [← add_assoc] at hcost
    rw [bind_apply]
    by_cases hk : (s + k).Fits
    · rw [h.passes s hk]
      exact hf.refuses _ hk hcost
    · obtain ⟨e, he, hc⟩ := h.refuses s hs hk
      exact ⟨e, he, by rw [hc]⟩

/-- An expense may be reckoned otherwise. -/
lemma of_eq (hk : k = k') (h : Spends c a k) : Spends c a k' := hk ▸ h

/-- The answer of a check is dropped. -/
lemma discard (h : Spends c a k) : Spends (Functor.discard c) () k := by
  have hbind := h.bind (f := fun _ => pure PUnit.unit) (spends_pure PUnit.unit)
  rwa [add_zero] at hbind

/-- A limit has no place, so that no way is told with it. -/
lemma within {c : Check Unit} (h : Spends c () k) (step : Step) :
    Spends (within step c) () k where
  passes s hs := by
    rw [Check.within, h.passes s hs]
    rfl
  refuses s hs hcost := by
    obtain ⟨e, he, hc⟩ := h.refuses s hs hcost
    refine ⟨e, he, ?_⟩
    rw [Check.within, hc]
    simp [Except.mapError, fault, DecodeError.within, he]

end Spends

variable {b : Buffer} {p : Nat}

/-- Bytes that are there are referred to. -/
lemma spends_range {start size : Nat} (h : start + size ≤ b.size) :
    Spends (range b start size) () (.bytes size) where
  passes s hs := by
    rw [range, if_neg (Nat.not_lt.2 h)]
    exact if_neg (Nat.not_lt.2 hs.1)
  refuses s hs hcost := by
    refine ⟨.apparentSize, rfl, ?_⟩
    have hlimit : maxResponseSize < s.apparent + size := by
      by_contra hle
      exact hcost ⟨Nat.not_lt.1 hle, hs.2⟩
    rw [range, if_neg (Nat.not_lt.2 h)]
    exact if_pos hlimit

/-- A multiple is a multiple. -/
lemma spends_aligned {type : Scalar} (h : p % type.size = 0) : Spends (aligned type p) () 0 := by
  rw [aligned, if_neg (not_not_intro h)]
  exact spends_pure ()

/-- One more table is visited. -/
lemma spends_countTable : Spends countTable () ⟨0, 1⟩ where
  passes s hs := if_neg (Nat.not_lt.2 hs.2)
  refuses s hs hcost := by
    refine ⟨.manyTables, rfl, if_pos ?_⟩
    by_contra hle
    exact hcost ⟨hs.1, Nat.not_lt.1 hle⟩

/-- A number that stands somewhere is read. -/
lemma spends_scalar {type : Scalar} {n : Nat} (h : NumberAt b type.size n p) :
    Spends (scalar b type p) n (.bytes type.size) := by
  have hroom : p + type.size ≤ b.size := h.room (by cases type <;> decide)
  rw [scalar, h.2]
  refine Spends.of_eq ?_ ((spends_aligned h.1).bind ((spends_range hroom).bind (spends_pure n)))
  rw [add_zero, zero_add]

/-- What a distance leads to is checked where it stands. -/
lemma spends_follow {target : Nat → Prop} {check : Nat → Check Unit} {k : Budget}
    (h : LinkAt b target p) (hcheck : ∀ q, target q → Spends (check q) () k) :
    Spends (follow b p >>= check) () (.bytes 4 + k) := by
  obtain ⟨n, hn, htarget⟩ := h
  have hfollow : Spends (follow b p) (p + n) (.bytes 4) := by
    have hscalar : Spends (scalar b .u32 p) n (.bytes 4) := spends_scalar hn
    have hpure := hscalar.bind (f := fun n => pure (p + n)) (spends_pure (p + n))
    rwa [add_zero] at hpure
  exact hfollow.bind (hcheck _ htarget)

/-- A number of 32 bits that nothing is asked of but that it is there. -/
lemma spends_word {n : Nat} (h : NumberAt b 4 n p) :
    Spends (Functor.discard (scalar b .u32 p)) () (.bytes 4) :=
  (spends_scalar h).discard

/-! ### Fields of a table -/

section

variable {slots : List (Slot × Option (Nat → Prop))} {i : Nat} (h : FieldsAt b slots p i)

include h

/-- A table is found with its index. The index is referred to twice, for its length and as a
whole. -/
lemma spends_table :
    Spends (table b p) ⟨p, i, indexLength slots⟩ ⟨6 + indexLength slots, 1⟩ := by
  obtain ⟨n, hn, hindex⟩ := h.distance
  have hstart : i + 2 ≤ b.size := h.length.room (by decide)
  have hinside : ¬ ((p : Int) - signed32 n < 0 ∨ (b.size : Int) ≤ (p : Int) - signed32 n) := by
    omega
  have heven : (i + indexLength slots) % Scalar.u16.size = 0 := by
    have hi : i % 2 = 0 := h.length.1
    have hlength := h.even
    show (i + indexLength slots) % 2 = 0
    omega
  have hdistance : Spends (scalar b .i32 p) n (.bytes 4) := spends_scalar hn
  have hlength : Spends (scalar b .u16 i) (indexLength slots) (.bytes 2) := spends_scalar h.length
  have hcost : Budget.bytes 4 + (.bytes 2 + (0 + (.bytes (indexLength slots) + (⟨0, 1⟩ + 0))))
      = ⟨6 + indexLength slots, 1⟩ := by
    ext
    · simp only [Budget.apparent_add, Budget.apparent_bytes, Budget.apparent_zero]
      omega
    · rfl
  refine Spends.of_eq hcost (hdistance.bind ?_)
  dsimp only
  rw [if_neg hinside, hindex, Int.toNat_natCast]
  exact hlength.bind ((spends_aligned heven).bind ((spends_range h.room).bind
    (spends_countTable.bind (spends_pure _))))

/-- A field is looked up if the index reaches its slot. -/
lemma spends_field {γ : Type} {slot : Nat} (heven : slot % 2 = 0) (x : Option γ)
    (at' : γ → Nat → Prop) (hslot : (slot, x.map at') ∈ slots) :
    ∃ f : Option Nat,
      Spends (field b ⟨p, i, indexLength slots⟩ slot) f
        (if slot + 2 ≤ indexLength slots then .bytes 2 else 0) ∧
      match x with
      | none => f = none
      | some c => ∃ q, f = some q ∧ at' c q := by
  have hfield := h.field _ hslot
  have hlength := h.even
  split at hfield
  next hend =>
    obtain ⟨d, hd, hvalue⟩ := hfield
    refine ⟨if d = 0 then none else some (p + d), ?_, ?_⟩
    · have hbegin : slot < indexLength slots := by
        have : slot + 2 ≤ indexLength slots := hend
        omega
      have hscalar : Spends (scalar b .u16 (i + slot)) d (.bytes 2) := spends_scalar hd
      rw [if_pos hend, field, if_pos hbegin, ← add_zero (Budget.bytes 2)]
      exact hscalar.bind (spends_pure _)
    · cases x with
      | none => exact if_pos hvalue
      | some c => exact ⟨p + d, if_neg hvalue.1, hvalue.2⟩
  next hend =>
    cases x with
    | some c => cases hfield
    | none =>
      have hbegin : ¬ slot < indexLength slots := by
        have : ¬ slot + 2 ≤ indexLength slots := hend
        omega
      refine ⟨none, ?_, rfl⟩
      rw [if_neg hend, field, if_neg hbegin]
      exact spends_pure none

/-- A field that a table may have is checked at the cost of its slot. -/
lemma spends_ifField {γ : Type} {slot : Nat} (heven : slot % 2 = 0) (x : Option γ)
    (at' : γ → Nat → Prop) (hslot : (slot, x.map at') ∈ slots) (name : String)
    {check : Nat → Check Unit} {cost : γ → Budget}
    (hcheck : ∀ c q, at' c q → Spends (check q) () (cost c)) :
    Spends (ifField b ⟨p, i, indexLength slots⟩ slot name check) ()
      (slotCost (indexLength slots) (slot, x.map cost)) := by
  obtain ⟨f, hf, hx⟩ := spends_field h heven x at' hslot
  cases x with
  | none =>
    subst hx
    exact hf.bind (spends_pure ())
  | some c =>
    obtain ⟨q, rfl, hq⟩ := hx
    exact hf.bind ((hcheck c q hq).within _)

end

/-- A table is checked at the cost of its slots. -/
lemma spends_tableAt {slots : List (Slot × Option (Nat → Prop))} (h : TableAt b slots p)
    {costs : List (Slot × Option Budget)} (hlength : indexLength slots = indexLength costs)
    {check : Place → Check Unit}
    (hcheck : ∀ i, FieldsAt b slots p i → Spends (check ⟨p, i, indexLength slots⟩) ()
      (costs.map (slotCost (indexLength slots))).sum) :
    Spends (table b p >>= check) () (tableCost costs) := by
  obtain ⟨i, hi⟩ := h
  rw [tableCost, ← hlength]
  exact (spends_table hi).bind (hcheck i hi)

/-! ### Texts and lists -/

/-- A list is found with its elements. -/
lemma spends_list {element : α → Nat → Prop} {l : List α} {size : Nat}
    (h : ListAt b size element l p) (type : Scalar) :
    Spends (list b size type p) (p + 4, l.length) (listCost size l.length) := by
  have haligned : (p + 4) % type.size = 0 := by
    have hp : p % 4 = 0 := h.length.1
    cases type <;> simp only [Scalar.size] <;> omega
  have hcount : Spends (scalar b .u32 p) l.length (.bytes 4) := spends_scalar h.length
  refine Spends.of_eq ?_
    (hcount.bind ((spends_aligned haligned).bind ((spends_range h.room).bind (spends_pure _))))
  rw [add_zero, zero_add]
  rfl

/-- A list of elements of a fixed width that nothing is asked of but that they are there. -/
lemma spends_elements {element : α → Nat → Prop} {l : List α} {size : Nat} {type : Scalar}
    (h : LinkAt b (ListAt b size element l) p) :
    Spends (follow b p >>= fun q => Functor.discard (list b size type q)) ()
      (linkCost (listCost size l.length)) :=
  spends_follow h fun _ hq => (spends_list hq type).discard

/-- A text is a list of bytes. -/
lemma TextAt.listAt {s : String} (h : TextAt b s p) :
    ListAt b 1 (fun _ _ => True) (Utf8.encode s) p where
  length := h.length
  room := by
    obtain ⟨hlt, -⟩ := Array.getElem?_eq_some_iff.1 h.ended
    omega
  elements _ _ := trivial

/-- A text is found to be one, and to be ended by a zero byte. -/
lemma spends_text {s : String} (h : TextAt b s p) : Spends (text b p) () (textCost s) := by
  rw [textCost, ← add_zero (listCost _ _)]
  refine (spends_list (TextAt.listAt h) .u8).bind ?_
  dsimp only
  rw [h.bytes, Utf8.decode?_encode]
  dsimp only
  rw [if_pos h.ended]
  exact spends_pure ()

section

variable {table : α → Nat → Prop} {check : Nat → Check Unit} {cost : α → Budget}
  (hcheck : ∀ a q, table a q → Spends (check q) () (cost a))

include hcheck

/-- Tables are checked one after another. -/
lemma spends_tables {l : List α} (index : Nat)
    (h : ∀ i (hi : i < l.length), LinkAt b (table l[i]) (p + i * 4)) :
    Spends (tables b check index p l.length) () (l.map fun a => linkCost (cost a)).sum := by
  induction l generalizing p index with
  | nil => exact spends_pure ()
  | cons a l ih =>
    have hfirst : LinkAt b (table a) (p + 0 * 4) := h 0 l.length.succ_pos
    rw [Nat.zero_mul, Nat.add_zero] at hfirst
    have hrest : ∀ i (hi : i < l.length), LinkAt b (table l[i]) (p + 4 + i * 4) := by
      intro i hi
      have hnext : LinkAt b (table l[i]) (p + (i + 1) * 4) := h (i + 1) (Nat.succ_lt_succ hi)
      rwa [Nat.succ_mul, Nat.add_comm (i * 4), ← Nat.add_assoc] at hnext
    rw [List.map_cons, List.sum_cons]
    exact ((spends_follow hfirst (hcheck a)).within _).bind (ih (index + 1) hrest)

/-- A list of tables that a distance leads to is checked at the cost of its tables. -/
lemma spends_tableList {l : List α} (h : LinkAt b (TablesAt b table l) p) :
    Spends (follow b p >>= tableList b check) () (linkCost (tablesCost cost l)) :=
  spends_follow h fun _ hq =>
    (spends_list hq .u32).bind (spends_tables hcheck 0 hq.elements)

end

/-! ### The parts of a document -/

/-- A tag is checked at its cost. -/
lemma spends_tag {e : TagEntry Unit} (h : TagAt b e p) : Spends (tag b p) () e.cost := by
  refine spends_tableAt h (by simp [indexLength]) fun i hi => ?_
  have hname := spends_ifField hi (by decide) (some e.name) (fun s => LinkAt b (TextAt b s))
    (.head _) "tag" fun _ _ hs => spends_follow hs fun _ => spends_text
  have huser := spends_ifField hi (by decide) (writtenUser e.user) _ (.tail _ (.head _)) "user"
    fun _ _ => spends_word
  exact hname.bind huser

/-- An attribute value is checked at its cost. -/
lemma spends_keyedValue {e : AttributeEntry Unit} (h : KeyedValueAt b e p) :
    Spends (keyedValue b p) () e.cost := by
  refine spends_tableAt h (by simp [indexLength]) fun i hi => ?_
  have hkey := spends_ifField hi (by decide) (some e.key) (fun s => LinkAt b (TextAt b s))
    (.head _) "key" fun _ _ hs => spends_follow hs fun _ => spends_text
  have hvalue := spends_ifField hi (by decide) (some e.value) (fun s => LinkAt b (TextAt b s))
    (.tail _ (.head _)) "value" fun _ _ hs => spends_follow hs fun _ => spends_text
  have huser := spends_ifField hi (by decide) (writtenUser e.user) _ (.tail _ (.tail _ (.head _)))
    "user" fun _ _ => spends_word
  exact hkey.bind (hvalue.bind huser)

/-- An image is checked at its cost. -/
lemma spends_image {e : ImageEntry Unit} (h : ImageAt b e p) :
    Spends (image b p) () e.cost := by
  refine spends_tableAt h (by simp [indexLength]) fun i hi => ?_
  have hid := spends_ifField hi (by decide) e.id _ (.head _) "id" fun _ _ => spends_word
  have hhash := spends_ifField hi (by decide) e.hash _ (.tail _ (.head _)) "hash"
    fun _ _ hg => spends_range hg.1
  have htags := spends_ifField hi (by decide) e.tags _ (.tail _ (.tail _ (.head _))) "tags"
    fun _ _ hl => spends_tableList (fun _ _ ht => spends_tag ht) hl
  have hattributes := spends_ifField hi (by decide) e.attributes _
    (.tail _ (.tail _ (.tail _ (.head _)))) "attributes"
    fun _ _ hl => spends_tableList (fun _ _ hv => spends_keyedValue hv) hl
  exact hid.bind (hhash.bind (htags.bind hattributes))

/-- A member is checked at the cost of its items. -/
lemma spends_items {items : Nat → Prop} {k : Budget} (h : LinkAt b (MemberAt b items) p)
    {check : Nat → Check Unit} (step : Step) (name : String)
    (hcheck : ∀ q, LinkAt b items q → Spends (follow b q >>= check) () (linkCost k)) :
    Spends (Check.items b step name check p) () (linkCost (memberCost k)) := by
  refine Spends.within (spends_follow h fun q hq => ?_) step
  refine spends_tableAt hq (by simp [indexLength]) fun i hi => ?_
  have hitems := spends_ifField hi (by decide) (some ()) (fun _ => LinkAt b items) (.head _) name
    fun _ q => hcheck q
  exact hitems

/-- The member of a document is checked at the cost of its items. -/
lemma spends_member {document : Document Unit} {kind : UInt8} {items : Nat → Prop}
    (hmember : document.memberAt b = some (kind, items)) (h : LinkAt b (MemberAt b items) p) :
    ∃ k, document.itemsCost = some k ∧
      Spends (member b kind.toNat p) () (linkCost (memberCost k)) := by
  cases document with
  | nothing => cases hmember
  | ids l =>
    cases hmember
    refine ⟨_, rfl, ?_⟩
    rw [member_ids]
    exact spends_items h _ _ fun _ => spends_elements
  | hashes l =>
    cases hmember
    refine ⟨_, rfl, ?_⟩
    rw [member_hashes]
    exact spends_items h _ _ fun _ => spends_elements
  | images l =>
    cases hmember
    refine ⟨_, rfl, ?_⟩
    rw [member_images]
    exact spends_items h _ _ fun _ hl => spends_tableList (fun _ _ hi => spends_image hi) hl

/-- **A document that stands in a response is verified at its cost.** -/
lemma spends_response {document : Document Unit} (h : DocumentAt b document) :
    Spends (response b) () document.cost := by
  refine spends_follow h fun root hroot => ?_
  refine spends_tableAt hroot (by cases document <;> rfl) fun i hi => ?_
  obtain ⟨data, hdata, hmember⟩ :=
    spends_field hi (by decide) (document.memberAt b) _ (.head _)
  obtain ⟨kindAt, hkindAt, hkind⟩ :=
    spends_field hi (by decide) (document.memberAt b) _ (.tail _ (.head _))
  cases hm : document.memberAt b with
  | none =>
    obtain rfl : document = .nothing := by cases document <;> first | rfl | cases hm
    subst hmember hkind
    exact hdata.bind (hkindAt.bind (spends_pure ()))
  | some m =>
    obtain ⟨kind, items⟩ := m
    rw [hm] at hdata hkindAt hmember hkind
    obtain ⟨q, rfl, hq⟩ := hmember
    obtain ⟨q', rfl, hq'⟩ := hkind
    obtain ⟨k, hk, hcheck⟩ := spends_member hm hq
    have hscalar : Spends (scalar b .u8 q') kind.toNat (.bytes 1) := spends_scalar hq'
    rw [hk]
    refine Spends.of_eq ?_ (hdata.bind (hkindAt.bind (hscalar.bind (hcheck.within _))))
    simp only [Option.map_some, List.map_cons, List.map_nil, List.sum_cons, List.sum_nil, slotCost,
      Option.getD_some, add_zero]
    abel

end Check

end TagCatalog.Table
