import Mathlib.Tactic
import TagCatalog.OrderedMap

/-!
Maps built entry by entry.

* `lastValue`: the value that the last entry of a list gives to a key.
* `get?_foldl_insert`: after entries are inserted one after another, a look-up
  sees the last value given, and what was there before only if none is.
* `ofList_entries`: a map is the map of its own entries, read in order.
* `total`, `total_insert_add`: a sum over the entries, and what an insertion does
  to it: the entry comes in, and the one that the key had before goes out;
  `total_foldl_insert_le`, `size_foldl_insert_le` are bounds for many insertions.
-/

namespace TagCatalog

namespace OrderedMap

universe u v

variable {κ : Type u} {α : Type v}

/-! ### The last value for a key -/

section

variable [DecidableEq κ]

/-- The value that the last entry for a key gives to it. -/
def lastValue (k : κ) : List (κ × α) → Option α
  | [] => none
  | e :: rest => (lastValue k rest).or (if e.1 = k then some e.2 else none)

/-- Later lists of entries count before earlier ones. -/
lemma lastValue_append (k : κ) (l l' : List (κ × α)) :
    lastValue k (l ++ l') = (lastValue k l').or (lastValue k l) := by
  induction l with
  | nil => simp [lastValue]
  | cons e l ih => rw [List.cons_append, lastValue, lastValue, ih, Option.or_assoc]

end

section

variable [LT κ] [LE κ] [DecidableLT κ] [Std.IsLinearOrder κ] [Std.LawfulOrderLT κ]

/-- Of the entries inserted one after another, the last one for a key is seen. -/
lemma get?_foldl_insert [DecidableEq κ] (l : List (κ × α)) (m : OrderedMap κ α) (k : κ) :
    (l.foldl (fun m e => m.insert e.1 e.2) m).get? k = (lastValue k l).or (m.get? k) := by
  induction l generalizing m with
  | nil => rfl
  | cons e l ih =>
    rw [List.foldl_cons, ih, get?_insert, lastValue, Option.or_assoc]
    by_cases he : e.1 = k <;> simp [he]

/-- Of two values given to a key the later one is kept. -/
lemma insert_insert [DecidableEq κ] (m : OrderedMap κ α) (k : κ) (a b : α) :
    (m.insert k a).insert k b = m.insert k b := by
  refine ext_get? fun j => ?_
  rw [get?_insert, get?_insert, get?_insert]
  split <;> rfl

/-- Entries inserted one after another bring in no others. -/
lemma mem_foldl_insert {l : List (κ × α)} {m : OrderedMap κ α} {e : κ × α}
    (h : e ∈ (l.foldl (fun m e => m.insert e.1 e.2) m).entries) : e ∈ l ∨ e ∈ m.entries := by
  induction l generalizing m with
  | nil => exact .inr h
  | cons f l ih =>
    rcases ih h with hl | hm
    · exact .inl (List.mem_cons_of_mem f hl)
    · rcases mem_place hm with rfl | hm
      · exact .inl List.mem_cons_self
      · exact .inr hm

/-- A map with an inserted entry is not empty. -/
lemma isEmpty_insert (m : OrderedMap κ α) (k : κ) (a : α) : (m.insert k a).isEmpty = false := by
  change (place k a m.entries).isEmpty = false
  cases m.entries with
  | nil => rfl
  | cons e l =>
    rw [place]
    split
    next => rfl
    next => split <;> rfl

/-! ### Entries in order -/

/-- An entry whose key is above all others is placed last. -/
lemma place_of_forall_lt {k : κ} {a : α} {l : List (κ × α)} (h : ∀ e ∈ l, e.1 < k) :
    place k a l = l ++ [(k, a)] := by
  induction l with
  | nil => rfl
  | cons e l ih =>
    have he : e.1 < k := h e (by simp)
    have hne : ¬ k < e.1 := fun hk => Std.lt_irrefl (Std.lt_trans he hk)
    rw [place, if_neg hne, if_pos he, ih fun f hf => h f (by simp [hf]), List.cons_append]

/-- Entries that continue the order of a map are put behind it. -/
lemma entries_foldl_insert {l : List (κ × α)} {m : OrderedMap κ α}
    (h : (m.entries ++ l).Pairwise fun a b => a.1 < b.1) :
    (l.foldl (fun m e => m.insert e.1 e.2) m).entries = m.entries ++ l := by
  induction l generalizing m with
  | nil => simp
  | cons e l ih =>
    have hlt : ∀ f ∈ m.entries, f.1 < e.1 := fun f hf =>
      (List.pairwise_append.1 h).2.2 f hf e (by simp)
    have hm : (m.insert e.1 e.2).entries = m.entries ++ [e] := place_of_forall_lt hlt
    rw [List.foldl_cons, ih (by rw [hm]; simpa using h), hm, List.append_assoc,
      List.singleton_append]

/-- A map is the map of its entries. -/
lemma ofList_entries (m : OrderedMap κ α) : ofList m.entries = m :=
  ext (entries_foldl_insert (m := ∅) m.sorted)

end

/-! ### Sums over the entries -/

/-- The sum of a weight over the entries of a map. -/
def total [LT κ] (m : OrderedMap κ α) (f : κ × α → Nat) : Nat := (m.entries.map f).sum

/-- The number of entries is a sum of ones. -/
lemma size_eq_total [LT κ] (m : OrderedMap κ α) : m.size = m.total fun _ => 1 := by
  rw [size, total, List.map_const', List.sum_replicate, smul_eq_mul, mul_one]

/-- The empty map has no entries to count. -/
@[simp] lemma size_empty [LT κ] : (∅ : OrderedMap κ α).size = 0 := rfl

/-- The empty map has no entries to sum over. -/
@[simp] lemma total_empty [LT κ] (f : κ × α → Nat) : (∅ : OrderedMap κ α).total f = 0 := rfl

/-- A sum of greater weights is greater. -/
lemma total_le_total [LT κ] (m : OrderedMap κ α) {f g : κ × α → Nat} (h : ∀ e, f e ≤ g e) :
    m.total f ≤ m.total g :=
  List.sum_le_sum fun e _ => h e

/-- An entry is part of the sum. -/
lemma le_total_of_get? [LT κ] [Std.Irrefl (α := κ) (· < ·)] [DecidableEq κ] (f : κ × α → Nat)
    {m : OrderedMap κ α} {k : κ} {a : α} (h : m.get? k = some a) : f (k, a) ≤ m.total f :=
  List.le_sum_of_mem (List.mem_map_of_mem (mem_entries_iff.2 h))

/-- Without an entry for a key there is no value for it. -/
lemma lookup_eq_none [DecidableEq κ] {k : κ} {l : List (κ × α)} (h : ∀ e ∈ l, e.1 ≠ k) :
    lookup k l = none := by
  induction l with
  | nil => rfl
  | cons e l ih => rw [lookup, if_neg (h e (by simp)), ih fun f hf => h f (by simp [hf])]

section

variable [LT κ] [LE κ] [DecidableLT κ] [Std.IsLinearOrder κ] [Std.LawfulOrderLT κ]

/-- A placed entry comes in, and the one of its key goes out. -/
lemma sum_place_add [DecidableEq κ] (f : κ × α → Nat) (k : κ) (a : α) {l : List (κ × α)}
    (h : l.Pairwise fun a b => a.1 < b.1) :
    ((place k a l).map f).sum + (lookup k l).elim 0 (fun b => f (k, b))
      = (l.map f).sum + f (k, a) := by
  induction l with
  | nil => simp [place, lookup]
  | cons e l ih =>
    obtain ⟨he, hl⟩ := List.pairwise_cons.1 h
    have hih := ih hl
    by_cases hlt : k < e.1
    · -- the key lies before all others, so it has no entry yet
      have hnone : lookup k (e :: l) = none := by
        refine lookup_eq_none fun g hg hgk => ?_
        have hkg : k < g.1 := by
          rcases List.mem_cons.1 hg with rfl | hg
          · exact hlt
          · exact Std.lt_trans hlt (he g hg)
        exact Std.lt_irrefl (hgk ▸ hkg)
      rw [place, if_pos hlt, hnone]
      simp only [List.map_cons, List.sum_cons, Option.elim_none]
      omega
    · by_cases hgt : e.1 < k
      · have hne : e.1 ≠ k := fun hek => Std.lt_irrefl (hek ▸ hgt)
        rw [place, if_neg hlt, if_pos hgt, lookup, if_neg hne]
        simp only [List.map_cons, List.sum_cons]
        omega
      · have hek : e.1 = k := Std.le_antisymm (Std.not_lt.1 hlt) (Std.not_lt.1 hgt)
        obtain ⟨k', b⟩ := e
        obtain rfl : k' = k := hek
        rw [place, if_neg hlt, if_neg hgt, lookup, if_pos rfl]
        simp only [List.map_cons, List.sum_cons, Option.elim_some]
        omega

/-- An insertion adds its entry to a sum and takes the one of the key out. -/
lemma total_insert_add [DecidableEq κ] (f : κ × α → Nat) (m : OrderedMap κ α) (k : κ) (a : α) :
    (m.insert k a).total f + (m.get? k).elim 0 (fun b => f (k, b)) = m.total f + f (k, a) :=
  sum_place_add f k a m.sorted

/-- Entries inserted one after another add no more than themselves. -/
lemma total_foldl_insert_le [DecidableEq κ] (f : κ × α → Nat) (l : List (κ × α))
    (m : OrderedMap κ α) :
    (l.foldl (fun m e => m.insert e.1 e.2) m).total f ≤ m.total f + (l.map f).sum := by
  induction l generalizing m with
  | nil => simp
  | cons e l ih =>
    have hl := ih (m.insert e.1 e.2)
    have he : _ = m.total f + f e := total_insert_add f m e.1 e.2
    rw [List.foldl_cons, List.map_cons, List.sum_cons]
    omega

/-- An insertion adds one entry at most. -/
lemma size_insert_le [DecidableEq κ] (m : OrderedMap κ α) (k : κ) (a : α) :
    (m.insert k a).size ≤ m.size + 1 := by
  have h := total_insert_add (fun _ => 1) m k a
  rw [size_eq_total, size_eq_total]
  omega

/-- Entries inserted one after another are no more than themselves. -/
lemma size_foldl_insert_le [DecidableEq κ] (l : List (κ × α)) (m : OrderedMap κ α) :
    (l.foldl (fun m e => m.insert e.1 e.2) m).size ≤ m.size + l.length := by
  induction l generalizing m with
  | nil => simp
  | cons e l ih =>
    have hl := ih (m.insert e.1 e.2)
    have he := size_insert_le m e.1 e.2
    rw [List.foldl_cons, List.length_cons]
    omega

end

end OrderedMap

end TagCatalog
