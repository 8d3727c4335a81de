/-!
Finite maps held as lists of entries in ascending key order.

* `OrderedMap.entries`: the view; two maps are equal exactly when their entries are.
* `OrderedMap.insert`: the last value given for a key is the one kept.
* `OrderedMap.get?_insert`, `OrderedMap.get?_erase`: what a look-up sees after a change.
* `OrderedMap.ext_get?`: a map is determined by its look-ups.
-/

namespace TagCatalog

universe u v w

/-- Entries whose keys strictly increase. -/
structure OrderedMap (κ : Type u) (α : Type v) [LT κ] where
  /-- The entries, in ascending key order. -/
  entries : List (κ × α)
  /-- The keys strictly increase. -/
  sorted : entries.Pairwise fun a b => a.1 < b.1

namespace OrderedMap

variable {κ : Type u} {α : Type v} {β : Type w}

/-! ### Entry lists -/

/-- The value of the first entry with key `k`. -/
def lookup [DecidableEq κ] (k : κ) : List (κ × α) → Option α
  | [] => none
  | e :: rest => if e.1 = k then some e.2 else lookup k rest

/-- The entries with `k ↦ a` put in its place, over any value `k` had. -/
def place [LT κ] [DecidableLT κ] (k : κ) (a : α) : List (κ × α) → List (κ × α)
  | [] => [(k, a)]
  | e :: rest =>
    if k < e.1 then (k, a) :: e :: rest
    else if e.1 < k then e :: place k a rest
    else (k, a) :: rest

/-- Placing an entry brings in no entry but that one. -/
theorem mem_place [LT κ] [DecidableLT κ] {k : κ} {a : α} {l : List (κ × α)} {e : κ × α}
    (h : e ∈ place k a l) : e = (k, a) ∨ e ∈ l := by
  induction l with
  | nil => simpa [place] using h
  | cons f rest ih => grind [place]

/-- Placing an entry keeps a list in order. -/
theorem sorted_place [LT κ] [LE κ] [DecidableLT κ] [Std.IsLinearOrder κ] [Std.LawfulOrderLT κ]
    (k : κ) (a : α) {l : List (κ × α)} (h : l.Pairwise fun a b => a.1 < b.1) :
    (place k a l).Pairwise fun a b => a.1 < b.1 := by
  induction l with
  | nil => simp [place]
  | cons e rest ih =>
    obtain ⟨he, hrest⟩ := List.pairwise_cons.1 h
    rw [place]
    split
    next hlt =>
      refine List.pairwise_cons.2 ⟨fun f hf => ?_, h⟩
      rcases List.mem_cons.1 hf with rfl | hf
      · exact hlt
      · exact Std.lt_trans hlt (he f hf)
    next hlt =>
      split
      next hgt =>
        refine List.pairwise_cons.2 ⟨fun f hf => ?_, ih hrest⟩
        rcases mem_place hf with rfl | hf
        · exact hgt
        · exact he f hf
      next hgt =>
        have hk : k = e.1 :=
          Std.le_antisymm (Std.not_lt.1 hgt) (Std.not_lt.1 hlt)
        exact List.pairwise_cons.2 ⟨fun f hf => hk ▸ he f hf, hrest⟩

/-- A placed key has the placed value, and every other key the value it had. -/
theorem lookup_place [LT κ] [LE κ] [DecidableEq κ] [DecidableLT κ] [Std.IsLinearOrder κ]
    [Std.LawfulOrderLT κ] (k : κ) (a : α) (l : List (κ × α)) (j : κ) :
    lookup j (place k a l) = if k = j then some a else lookup j l := by
  induction l with
  | nil => simp [place, lookup]
  | cons e rest ih =>
    rw [place]
    split
    next => simp [lookup]
    next hlt =>
      split
      next hgt =>
        have hne : k ≠ e.1 := fun h => Std.lt_irrefl (h ▸ hgt)
        by_cases hj : e.1 = j
        · subst hj
          simp [lookup, hne]
        · simp [lookup, hj, ih]
      next hgt =>
        have hk : k = e.1 :=
          Std.le_antisymm (Std.not_lt.1 hgt) (Std.not_lt.1 hlt)
        by_cases hj : k = j <;> simp [lookup, hj, ← hk]

/-! ### Maps -/

section

variable [LT κ]

instance [DecidableEq κ] [DecidableEq α] : DecidableEq (OrderedMap κ α) := fun m n =>
  decidable_of_iff (m.entries = n.entries)
    ⟨fun h => by cases m; cases n; simp_all, fun h => h ▸ rfl⟩

/-- Maps with the same entries are the same. -/
@[ext] theorem ext {m n : OrderedMap κ α} (h : m.entries = n.entries) : m = n := by
  cases m; cases n; simp_all

/-- The map without entries. -/
def empty : OrderedMap κ α := ⟨[], .nil⟩

instance : EmptyCollection (OrderedMap κ α) := ⟨empty⟩
instance : Inhabited (OrderedMap κ α) := ⟨empty⟩

/-- The empty map has no entries. -/
@[simp] theorem entries_empty : (∅ : OrderedMap κ α).entries = [] := rfl

/-- The number of entries. -/
def size (m : OrderedMap κ α) : Nat := m.entries.length

/-- Whether there is no entry. -/
def isEmpty (m : OrderedMap κ α) : Bool := m.entries.isEmpty

/-- The keys, ascending. -/
def keys (m : OrderedMap κ α) : List κ := m.entries.map (·.1)

/-- The value of `k`. -/
def get? [DecidableEq κ] (m : OrderedMap κ α) (k : κ) : Option α := lookup k m.entries

/-- The empty map has no values. -/
@[simp] theorem get?_empty [DecidableEq κ] (k : κ) : (∅ : OrderedMap κ α).get? k = none := rfl

/-- Whether `k` has a value. -/
def contains [DecidableEq κ] (m : OrderedMap κ α) (k : κ) : Bool := (m.get? k).isSome

/-- The map without the entry of `k`. -/
def erase [DecidableEq κ] (m : OrderedMap κ α) (k : κ) : OrderedMap κ α where
  entries := m.entries.filter fun e => e.1 ≠ k
  sorted := m.sorted.filter _

/-- An erased key has no value, and every other key the value it had. -/
theorem get?_erase [DecidableEq κ] (m : OrderedMap κ α) (k j : κ) :
    (m.erase k).get? j = if k = j then none else m.get? j := by
  change lookup j (m.entries.filter fun e => e.1 ≠ k) = if k = j then none else lookup j m.entries
  induction m.entries with
  | nil => simp [lookup]
  | cons e rest ih =>
    by_cases he : e.1 = k <;> by_cases hj : e.1 = j <;> grind [lookup]

end

section

variable [LT κ] [LE κ] [DecidableLT κ] [Std.IsLinearOrder κ] [Std.LawfulOrderLT κ]

/-- The map with `k ↦ a`, over any value `k` had. -/
def insert (m : OrderedMap κ α) (k : κ) (a : α) : OrderedMap κ α :=
  ⟨place k a m.entries, sorted_place k a m.sorted⟩

/-- An inserted key has the inserted value, and every other key the value it had. -/
theorem get?_insert [DecidableEq κ] (m : OrderedMap κ α) (k : κ) (a : α) (j : κ) :
    (m.insert k a).get? j = if k = j then some a else m.get? j :=
  lookup_place k a m.entries j

/-- The map of a list of entries; of two with one key the later counts. -/
def ofList (l : List (κ × α)) : OrderedMap κ α :=
  l.foldl (fun m e => m.insert e.1 e.2) ∅

omit [LE κ] [DecidableLT κ] [Std.IsLinearOrder κ] [Std.LawfulOrderLT κ] in
/-- The entries of a map are its keys with their values. -/
theorem mem_entries_iff [Std.Irrefl (α := κ) (· < ·)] [DecidableEq κ] {m : OrderedMap κ α} {k : κ}
    {a : α} :
    (k, a) ∈ m.entries ↔ m.get? k = some a := by
  obtain ⟨l, hl⟩ := m
  simp only [get?]
  induction l with
  | nil => simp [lookup]
  | cons e rest ih =>
    obtain ⟨he, hrest⟩ := List.pairwise_cons.1 hl
    by_cases hk : e.1 = k
    · subst hk
      simp only [List.mem_cons, lookup, if_true, Option.some.injEq]
      constructor
      · rintro (h | h)
        · rw [← h]
        · exact absurd (he _ h) (fun hlt => Std.lt_irrefl hlt)
      · rintro rfl
        exact .inl rfl
    · have hne : (k, a) ≠ e := fun h => hk (by rw [← h])
      simp [lookup, hk, hne, ih hrest]

omit [DecidableLT κ] in
/-- A map is determined by its look-ups. -/
theorem ext_get? [DecidableEq κ] {m n : OrderedMap κ α} (h : ∀ k, m.get? k = n.get? k) :
    m = n := by
  have hmem : ∀ e, e ∈ m.entries ↔ e ∈ n.entries := fun ⟨k, a⟩ => by
    rw [mem_entries_iff, mem_entries_iff, h]
  obtain ⟨l, hl⟩ := m
  obtain ⟨r, hr⟩ := n
  ext1
  simp only at hmem ⊢
  clear h
  induction l generalizing r with
  | nil => exact (List.eq_nil_iff_forall_not_mem.2 fun e he => by simpa using (hmem e).2 he).symm
  | cons e l ih =>
    cases r with
    | nil => simpa using (hmem e).1
    | cons f r =>
      obtain ⟨he, hl'⟩ := List.pairwise_cons.1 hl
      obtain ⟨hf, hr'⟩ := List.pairwise_cons.1 hr
      have hef : e = f := by
        rcases List.mem_cons.1 ((hmem e).1 (.head _)) with h | h
        · exact h
        · rcases List.mem_cons.1 ((hmem f).2 (.head _)) with h' | h'
          · exact h'.symm
          · exact absurd (Std.lt_trans (hf e h) (he f h')) Std.lt_irrefl
      subst hef
      congr 1
      refine ih hl' r hr' fun g => ⟨fun hg => ?_, fun hg => ?_⟩
      · rcases List.mem_cons.1 ((hmem g).1 (.tail _ hg)) with h | h
        · exact absurd (h ▸ he g hg) Std.lt_irrefl
        · exact h
      · rcases List.mem_cons.1 ((hmem g).2 (.tail _ hg)) with h | h
        · exact absurd (h ▸ hf g hg) Std.lt_irrefl
        · exact h

end

end OrderedMap

end TagCatalog
