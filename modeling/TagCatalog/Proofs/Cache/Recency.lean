import Mathlib.Tactic
import TagCatalog.Cache.Recency

/-!
Entries in order of use, seen through their keys and through their values.

* `find?_eq_none_iff`, `find?_front`, `find?_of_take`: what a look-up sees.
* `map_fst_remove`, `take_front`: what becomes of the keys. Of keys without repetition those last
  used are the same whether a key goes to the front of all of them or of the last used ones.
* `mapValues`: the entries with other values, by which the entries of two caches are compared.
-/

namespace TagCatalog.Recency

variable {κ α β : Type} [DecidableEq κ]

/-! ### Look-ups -/

/-- A key without an entry has no value. -/
lemma find?_eq_none_iff {k : κ} {l : List (κ × α)} : find? k l = none ↔ k ∉ l.map Prod.fst := by
  induction l with
  | nil => simp [find?]
  | cons e l ih =>
    rw [find?, List.map_cons, List.mem_cons, not_or]
    split
    next he => exact iff_of_false nofun fun h => h.1 he.symm
    next he => rw [ih, and_iff_right (Ne.symm he)]

/-- A key with an entry has a value. -/
lemma exists_find?_iff {k : κ} {l : List (κ × α)} :
    (∃ a, find? k l = some a) ↔ k ∈ l.map Prod.fst := by
  rw [← Option.isSome_iff_exists, Option.isSome_iff_ne_none, ne_eq, find?_eq_none_iff, not_not]

/-- Only the removed key loses its value. -/
lemma find?_remove (k j : κ) (l : List (κ × α)) :
    find? j (remove k l) = if k = j then none else find? j l := by
  induction l with
  | nil => simp [remove, find?]
  | cons e l ih => by_cases he : e.1 = k <;> by_cases hj : k = j <;> grind [remove, find?]

/-- The entry in front is the one of its key. -/
lemma find?_front (k j : κ) (a : α) (l : List (κ × α)) :
    find? j ((k, a) :: remove k l) = if k = j then some a else find? j l := by
  rw [find?, find?_remove]
  split <;> rfl

/-- What is among the last used entries is there. -/
lemma find?_of_take {k : κ} {a : α} {n : Nat} {l : List (κ × α)} (h : find? k (l.take n) = some a) :
    find? k l = some a := by
  induction l generalizing n with
  | nil => simpa using h
  | cons e l ih =>
    cases n with
    | zero => cases h
    | succ n =>
      rw [List.take_succ_cons, find?] at h
      rw [find?]
      split at h
      next he => rwa [if_pos he]
      next he => rw [if_neg he, ih h]

/-- A key without an entry has none among those last used. -/
lemma find?_take_eq_none {k : κ} {l : List (κ × α)} (h : find? k l = none) (n : Nat) :
    find? k (l.take n) = none :=
  Option.eq_none_iff_forall_ne_some.2 fun _ ha => nomatch (find?_of_take ha).symm.trans h

/-- What is found is there. -/
lemma mem_of_find? {k : κ} {a : α} {l : List (κ × α)} (h : find? k l = some a) : (k, a) ∈ l := by
  induction l with
  | nil => cases h
  | cons e l ih =>
    rw [find?] at h
    split at h
    next he =>
      cases h
      exact he ▸ List.mem_cons_self
    next => exact List.mem_cons_of_mem e (ih h)

/-- Where no key has two entries, what is there is found. -/
lemma find?_of_mem {k : κ} {a : α} {l : List (κ × α)} (hl : (l.map Prod.fst).Nodup)
    (h : (k, a) ∈ l) : find? k l = some a := by
  obtain ⟨b, hb⟩ := exists_find?_iff.2 (List.mem_map_of_mem h)
  have hpair := List.inj_on_of_nodup_map hl (mem_of_find? hb) h rfl
  rw [hb, (Prod.mk.inj hpair).2]

/-! ### Keys -/

/-- The removed key is gone from the keys. -/
lemma map_fst_remove (k : κ) (l : List (κ × α)) :
    (remove k l).map Prod.fst = (l.map Prod.fst).filter (· ≠ k) := by
  rw [remove, List.filter_map]
  rfl

/-- Nothing is removed for a key without an entry. -/
lemma remove_of_find?_eq_none {k : κ} {l : List (κ × α)} (h : find? k l = none) :
    remove k l = l := by
  refine List.filter_eq_self.2 fun e he => decide_eq_true fun hk => ?_
  exact find?_eq_none_iff.1 h (hk ▸ List.mem_map_of_mem he)

/-- Nothing is changed for a key without an entry. -/
lemma update_of_find?_eq_none {k : κ} {l : List (κ × α)} (h : find? k l = none) (a : α) :
    update k a l = l := by
  refine (List.map_congr_left fun e he => if_neg fun hk => ?_).trans (List.map_id l)
  exact find?_eq_none_iff.1 h (hk ▸ List.mem_map_of_mem he)

/-- Only the entry in front is changed, where the others have another key. -/
lemma update_front {k : κ} {l : List (κ × α)} (h : find? k l = none) (a b : α) :
    update k b ((k, a) :: l) = (k, b) :: l := by
  rw [update, List.map_cons, if_pos rfl]
  exact congrArg _ (update_of_find?_eq_none h b)

/-- Only the entry in front is removed, where the others have another key. -/
lemma remove_front {k : κ} {l : List (κ × α)} (h : find? k l = none) (a : α) :
    remove k ((k, a) :: l) = l := by
  rw [remove, List.filter_cons_of_neg (by simp)]
  exact remove_of_find?_eq_none h

/-- An entry of a key goes to the front. -/
lemma touch_of_find? {k : κ} {a : α} {l : List (κ × α)} (h : find? k l = some a) :
    touch k l = (k, a) :: remove k l := by
  rw [touch, h]

/-- Changing a value does not change the keys. -/
lemma map_fst_update (k : κ) (a : α) (l : List (κ × α)) :
    (update k a l).map Prod.fst = l.map Prod.fst := by
  rw [update, List.map_map]
  refine List.map_congr_left fun e _ => ?_
  rw [Function.comp_apply]
  split
  next he => exact he.symm
  next => rfl

/-- An entry after the change of a value is the changed one or that of another key. -/
lemma mem_update {k : κ} {a : α} {l : List (κ × α)} {e : κ × α} (h : e ∈ update k a l) :
    e = (k, a) ∨ e ∈ l ∧ e.1 ≠ k := by
  obtain ⟨e', he', rfl⟩ := List.mem_map.1 h
  by_cases hk : e'.1 = k
  · exact .inl (if_pos hk)
  · rw [if_neg hk]
    exact .inr ⟨he', hk⟩

/-- An entry that goes to the front changes its place only. -/
lemma perm_front {k : κ} {a : α} {l : List (κ × α)} (hl : (l.map Prod.fst).Nodup)
    (h : find? k l = some a) : ((k, a) :: remove k l).Perm l := by
  induction l with
  | nil => cases h
  | cons e l ih =>
    obtain ⟨he, hl⟩ := List.nodup_cons.1 hl
    rw [find?] at h
    split at h
    next hk =>
      cases h
      rw [← hk, remove_front (find?_eq_none_iff.2 he)]
    next hk =>
      rw [remove, List.filter_cons_of_pos (by simpa using hk)]
      exact (List.Perm.swap e (k, a) (remove k l)).trans ((ih hl h).cons e)

/-- A new key in front of the last used ones is not repeated. -/
lemma nodup_new {k : κ} {a : α} {l : List (κ × α)} (hl : (l.map Prod.fst).Nodup)
    (h : find? k l = none) (n : Nat) : (((k, a) :: l.take n).map Prod.fst).Nodup := by
  refine List.nodup_cons.2 ⟨find?_eq_none_iff.1 (find?_take_eq_none h n), ?_⟩
  exact hl.sublist ((List.take_sublist n l).map Prod.fst)

/-- Removing a key commutes with leaving out all but the last used ones, for which one more is then
looked at. -/
lemma take_filter_ne {l : List κ} (hl : l.Nodup) (k : κ) (n : Nat) :
    ((l.take (n + 1)).filter (· ≠ k)).take n = (l.filter (· ≠ k)).take n := by
  induction l generalizing n with
  | nil => simp
  | cons j l ih =>
    obtain ⟨hj, hl⟩ := List.nodup_cons.1 hl
    rw [List.take_succ_cons]
    by_cases hjk : j = k
    · subst hjk
      -- the key that is removed stands here, so that all others are kept
      have hall : ∀ i ∈ l, decide (i ≠ j) = true := fun i hi =>
        decide_eq_true fun hij => hj (hij ▸ hi)
      rw [List.filter_cons_of_neg (by simp), List.filter_cons_of_neg (by simp),
        List.filter_eq_self.2 hall,
        List.filter_eq_self.2 fun i hi => hall i (List.mem_of_mem_take hi), List.take_take,
        Nat.min_self]
    · rw [List.filter_cons_of_pos (by simpa using hjk),
        List.filter_cons_of_pos (by simpa using hjk)]
      cases n with
      | zero => rfl
      | succ n => rw [List.take_succ_cons, List.take_succ_cons, ih hl]

/-- The last used keys are the same whether a key goes to the front of all keys or of the last used
ones. -/
lemma take_front {l : List κ} (hl : l.Nodup) (k : κ) (n : Nat) :
    (k :: (l.take n).filter (· ≠ k)).take n = (k :: l.filter (· ≠ k)).take n := by
  cases n with
  | zero => rfl
  | succ n => rw [List.take_succ_cons, List.take_succ_cons, take_filter_ne hl]

/-- A key among others leaves room for itself in front of them. -/
lemma length_front_le {l : List κ} {k : κ} (hk : k ∈ l) :
    (k :: l.filter (· ≠ k)).length ≤ l.length :=
  List.length_filter_lt_length_iff_exists.2 ⟨k, hk, by simp⟩

/-! ### Other values -/

/-- The entries with other values. -/
def mapValues (f : α → β) (l : List (κ × α)) : List (κ × β) := l.map fun e => (e.1, f e.2)

omit [DecidableEq κ] in
/-- As many entries are there. -/
lemma length_mapValues (f : α → β) (l : List (κ × α)) : (mapValues f l).length = l.length :=
  List.length_map _

/-- The other value is found. -/
lemma find?_mapValues (f : α → β) (k : κ) (l : List (κ × α)) :
    find? k (mapValues f l) = (find? k l).map f := by
  induction l with
  | nil => rfl
  | cons e l ih =>
    rw [mapValues, List.map_cons, find?, find?]
    split
    · rfl
    · exact ih

/-- The same entry is removed. -/
lemma mapValues_remove (f : α → β) (k : κ) (l : List (κ × α)) :
    mapValues f (remove k l) = remove k (mapValues f l) := by
  rw [remove, mapValues, remove, mapValues, List.filter_map]
  rfl

omit [DecidableEq κ] in
/-- The same entries are left out. -/
lemma mapValues_take (f : α → β) (n : Nat) (l : List (κ × α)) :
    mapValues f (l.take n) = (mapValues f l).take n :=
  List.map_take

/-- The same entry is put in front. -/
lemma mapValues_front (f : α → β) (k : κ) (a : α) (l : List (κ × α)) :
    mapValues f ((k, a) :: remove k l) = (k, f a) :: remove k (mapValues f l) := by
  rw [← mapValues_remove]
  rfl

end TagCatalog.Recency
