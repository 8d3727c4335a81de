import Mathlib.Data.List.Dedup
import Mathlib.Data.List.DropRight
import Mathlib.Tactic
import TagCatalog.Proofs.Cache.Computing
import TagCatalog.Proofs.OrderedMap

/-!
A cache remembers what was used last.

What has been done to a cache, with the answers, is its history. A key is touched by a look-up that
finds it and by a value that is stored for it. The cache keeps the keys touched last since it was
last cleared, as many as it has room for, each with the value stored last for it.

* `Memo.Use`, `Memo.run`: uses of a cache one after another, and the history that they leave.
* `Memo.touched`, `Memo.stored`: what an event touches and stores; `recent` and `lastStored` are
  what a history has touched and stored last.
* `Memo.Moves`: all that a use can do to the entries; `moves_use` says that it does nothing else.
* `Memo.Recalls`: the invariant; `recalls_use` is the step and `recalls_run` the run.
* `run_keeps_recent`: the cache is determined by its history.
-/

namespace TagCatalog

open Recency (find? remove)

namespace Memo

variable {κ α ε : Type}

/-! ### Histories -/

/-- A use of a cache. -/
inductive Use (κ α ε : Type)
  | get (key : κ)
  | insert (key : κ) (value : α)
  | getOrTry (key : κ) (compute : κ → Except ε α)
  | contains (key : κ)
  | peek (key : κ)
  | clear

/-- What a use of a cache answers. -/
inductive Answer (α ε : Type)
  /-- The value that is kept, if there is one. -/
  | value (value : Option α)
  /-- The value that is kept or has been computed, or the failure of the computation. -/
  | found (found : Found α ε)
  | contained (answer : Bool)
  | done

/-- A use and its answer. -/
abbrev Event (κ α ε : Type) := Use κ α ε × Answer α ε

/-- The key that an event touches: one that is found, or one for which a value is stored. -/
def touched : Event κ α ε → Option κ
  | (.get k, .value (some _)) => some k
  | (.insert k _, _) => some k
  | (.getOrTry k _, .found ⟨_, .ok _⟩) => some k
  | _ => none

/-- The value that an event stores, with its key. -/
def stored : Event κ α ε → Option (κ × α)
  | (.insert k a, _) => some (k, a)
  | (.getOrTry k _, .found ⟨true, .ok a⟩) => some (k, a)
  | _ => none

/-- Whether an event clears the cache. -/
def clears : Event κ α ε → Bool
  | (.clear, _) => true
  | _ => false

variable [DecidableEq κ]

/-- The cache after a use, and the answer. -/
def use (m : Memo κ α) : Use κ α ε → Answer α ε × Memo κ α
  | .get k => let (a, m) := m.get k; (.value a, m)
  | .insert k a => (.done, m.insert k a)
  | .getOrTry k compute => let (found, m) := m.getOrTry k compute; (.found found, m)
  | .contains k => (.contained (m.contains k), m)
  | .peek k => (.value (m.peek k), m)
  | .clear => (.done, m.clear)

/-- The cache after uses one after another, and their history. -/
def run (m : Memo κ α) : List (Use κ α ε) → List (Event κ α ε) × Memo κ α
  | [] => ([], m)
  | u :: rest =>
    let (answer, m) := m.use u
    let (history, m) := run m rest
    ((u, answer) :: history, m)

/-- The keys touched since the cache was last cleared, each once, the last touched first. -/
def recent (history : List (Event κ α ε)) : List κ :=
  ((history.rtakeWhile fun e => !clears e).filterMap touched).dedup.reverse

/-- The value stored last for a key. -/
def lastStored (k : κ) (history : List (Event κ α ε)) : Option α :=
  OrderedMap.lastValue k (history.filterMap stored)

/-! ### What a use can do -/

variable {m : Memo κ α} {k : κ} {a : α}

/-- What a use does to the entries: they rest, the one that is found goes to the front, a value is
stored in front, or all are forgotten. -/
inductive Moves (m : Memo κ α) : Event κ α ε → List (κ × α) → Prop
  | rests {e} (htouched : touched e = none) (hstored : stored e = none)
    (hclears : clears e = false) : Moves m e m.entries
  | finds {e k a} (htouched : touched e = some k) (hstored : stored e = none)
    (hclears : clears e = false) (hfind : find? k m.entries = some a) :
    Moves m e ((k, a) :: remove k m.entries)
  | stores {e k a} (htouched : touched e = some k) (hstored : stored e = some (k, a))
    (hclears : clears e = false) :
    Moves m e (if m.capacity = 0 then m.entries
      else ((k, a) :: remove k m.entries).take m.capacity)
  | clears {e} (hclears : clears e = true) : Moves m e []

/-- Nothing else happens to the entries. -/
lemma moves_use (m : Memo κ α) (u : Use κ α ε) :
    m.Moves (u, (m.use u).1) (m.use u).2.entries ∧ (m.use u).2.capacity = m.capacity := by
  cases u with
  | get k =>
    cases h : m.peek k with
    | some a =>
      rw [use, get_of_some h]
      exact ⟨.finds rfl rfl rfl h, rfl⟩
    | none =>
      rw [use, get_of_none h]
      exact ⟨.rests rfl rfl rfl, rfl⟩
  | insert k a =>
    refine ⟨?_, capacity_insert m k a⟩
    show m.Moves _ (m.insert k a).entries
    rw [entries_insert]
    exact .stores rfl rfl rfl
  | getOrTry k compute =>
    cases h : m.peek k with
    | some a =>
      rw [use, getOrTry_of_some h, get_of_some h]
      exact ⟨.finds rfl rfl rfl h, rfl⟩
    | none =>
      rw [use, getOrTry_of_none h, get_of_none h]
      cases compute k with
      | error e => exact ⟨.rests rfl rfl rfl, rfl⟩
      | ok a =>
        refine ⟨?_, capacity_insert _ k a⟩
        show m.Moves _ (insert _ k a).entries
        rw [entries_insert]
        exact .stores rfl rfl rfl
  | contains k => exact ⟨.rests rfl rfl rfl, rfl⟩
  | peek k => exact ⟨.rests rfl rfl rfl, rfl⟩
  | clear => exact ⟨.clears rfl, rfl⟩

/-! ### What a history tells -/

variable {history : List (Event κ α ε)} {e : Event κ α ε}

/-- Of a list continued by one more element, this is the last of all distinct ones. -/
lemma dedup_concat (l : List κ) (k : κ) : (l ++ [k]).dedup = l.dedup.filter (· ≠ k) ++ [k] := by
  induction l with
  | nil => simp
  | cons j l ih =>
    by_cases hj : j ∈ l
    · rw [List.cons_append, List.dedup_cons_of_mem (by simp [hj]), List.dedup_cons_of_mem hj, ih]
    · rw [List.cons_append, List.dedup_cons_of_notMem hj]
      by_cases hjk : j = k
      · subst hjk
        rw [List.dedup_cons_of_mem (by simp), ih, List.filter_cons_of_neg (by simp)]
      · rw [List.dedup_cons_of_notMem (by simp [hj, hjk]), ih,
          List.filter_cons_of_pos (by simpa using hjk), List.cons_append]

/-- The keys touched last are told apart. -/
lemma nodup_recent (history : List (Event κ α ε)) : (recent history).Nodup :=
  List.nodup_reverse.2 (List.nodup_dedup _)

/-- A cleared cache has touched nothing since. -/
lemma recent_of_clears (h : clears e = true) : recent (history ++ [e]) = [] := by
  rw [recent, List.rtakeWhile_concat_neg _ _ _ (by simp [h])]
  rfl

/-- An event that touches nothing changes nothing of what has been touched. -/
lemma recent_of_untouched (h : clears e = false) (htouched : touched e = none) :
    recent (history ++ [e]) = recent history := by
  rw [recent, List.rtakeWhile_concat_pos _ _ _ (by simp [h]), List.filterMap_append]
  simp [htouched, recent]

/-- A touched key comes first of those touched last. -/
lemma recent_of_touched (h : clears e = false) (htouched : touched e = some k) :
    recent (history ++ [e]) = k :: (recent history).filter (· ≠ k) := by
  rw [recent, List.rtakeWhile_concat_pos _ _ _ (by simp [h]), List.filterMap_append,
    List.filterMap_cons_some htouched, List.filterMap_nil, dedup_concat, List.reverse_append,
    ← List.filter_reverse]
  rfl

/-- The value stored last is the one of the last event, if this stores one for the key. -/
lemma lastStored_concat (k : κ) (history : List (Event κ α ε)) (e : Event κ α ε) :
    lastStored k (history ++ [e]) =
      (lastStored k [e]).or (lastStored k history) := by
  rw [lastStored, List.filterMap_append, OrderedMap.lastValue_append]
  rfl

/-! ### The cache by its history -/

/-- Entries that are those of the keys touched last, with the values stored last. -/
structure Recalls (capacity : Nat) (entries : List (κ × α)) (history : List (Event κ α ε)) :
    Prop where
  keys : entries.map Prod.fst = (recent history).take capacity
  value : ∀ k a, find? k entries = some a → lastStored k history = some a

/-- Without a history nothing is kept. -/
lemma recalls_nil (capacity : Nat) :
    Recalls capacity ([] : List (κ × α)) ([] : List (Event κ α ε)) where
  keys := List.take_nil.symm
  value := nofun

namespace Recalls

variable {capacity : Nat} {entries : List (κ × α)} (h : Recalls capacity entries history)

include h

/-- The entries rest when nothing is touched. -/
lemma rests (hclears : clears e = false) (htouched : touched e = none) (hstored : stored e = none) :
    Recalls capacity entries (history ++ [e]) where
  keys := by rw [recent_of_untouched hclears htouched, h.keys]
  value j b hj := by
    rw [lastStored_concat, lastStored, List.filterMap_cons_none hstored]
    exact h.value j b hj

/-- The keys come to the front as the entries do. -/
lemma map_fst_front (k : κ) (a : α) : ((k, a) :: remove k entries).map Prod.fst =
    k :: ((recent history).take capacity).filter (· ≠ k) := by
  rw [List.map_cons, Recency.map_fst_remove, h.keys]

/-- The entry that is found comes to the front. -/
lemma finds (hclears : clears e = false) (htouched : touched e = some k) (hstored : stored e = none)
    (hfind : find? k entries = some a) :
    Recalls capacity ((k, a) :: remove k entries) (history ++ [e]) where
  keys := by
    have hk : k ∈ (recent history).take capacity := h.keys ▸ Recency.exists_find?_iff.1 ⟨a, hfind⟩
    rw [recent_of_touched hclears htouched, h.map_fst_front,
      ← Recency.take_front (nodup_recent history),
      List.take_of_length_le ((Recency.length_front_le hk).trans (List.length_take_le _ _))]
  value j b hj := by
    rw [lastStored_concat, lastStored, List.filterMap_cons_none hstored]
    refine h.value j b ?_
    rw [Recency.find?_front] at hj
    split at hj
    next hkj => rwa [← hkj, hfind]
    next => exact hj

/-- A stored value comes to the front, and what there is no room for is dropped. -/
lemma stores (hclears : clears e = false) (htouched : touched e = some k)
    (hstored : stored e = some (k, a)) :
    Recalls capacity (((k, a) :: remove k entries).take capacity) (history ++ [e]) where
  keys := by
    rw [List.map_take, h.map_fst_front, recent_of_touched hclears htouched,
      Recency.take_front (nodup_recent history)]
  value j b hj := by
    have hfront := Recency.find?_of_take hj
    rw [Recency.find?_front] at hfront
    rw [lastStored_concat, lastStored, List.filterMap_cons_some hstored]
    show ((if k = j then some a else none).or (lastStored j history)) = some b
    split at hfront
    next hkj => rw [if_pos hkj, hfront, Option.some_or]
    next hkj => rw [if_neg hkj, Option.none_or, h.value j b hfront]

/-- Where nothing is kept there is nothing to come to the front. -/
lemma eq_nil (hzero : capacity = 0) : entries = [] := by
  have hkeys := h.keys
  rw [hzero, List.take_zero] at hkeys
  exact List.map_eq_nil_iff.1 hkeys

end Recalls

/-- A use changes the cache as it changes the history. -/
lemma recalls_use (h : Recalls m.capacity m.entries history) (u : Use κ α ε) :
    Recalls (m.use u).2.capacity (m.use u).2.entries (history ++ [(u, (m.use u).1)]) := by
  obtain ⟨hmoves, hcapacity⟩ := moves_use m u
  rw [hcapacity]
  generalize (u, (m.use u).1) = e at *
  generalize (m.use u).2.entries = entries at *
  cases hmoves with
  | rests htouched hstored hclears => exact h.rests hclears htouched hstored
  | finds htouched hstored hclears hfind => exact h.finds hclears htouched hstored hfind
  | stores htouched hstored hclears =>
    have hstores := h.stores hclears htouched hstored
    split
    next hzero =>
      rw [hzero, List.take_zero] at hstores
      rwa [hzero, h.eq_nil hzero]
    next => exact hstores
  | clears hclears => exact ⟨by rw [recent_of_clears hclears, List.take_nil]; rfl, nofun⟩

/-- Uses one after another change the cache as they change the history. -/
lemma recalls_run (h : Recalls m.capacity m.entries history) (uses : List (Use κ α ε)) :
    Recalls (m.run uses).2.capacity (m.run uses).2.entries (history ++ (m.run uses).1) := by
  induction uses generalizing m history with
  | nil => rwa [run, List.append_nil]
  | cons u uses ih =>
    have hrest := ih (recalls_use h u)
    rwa [List.append_assoc, List.singleton_append] at hrest

/-- Uses do not change how much is kept. -/
lemma capacity_run (m : Memo κ α) (uses : List (Use κ α ε)) :
    (m.run uses).2.capacity = m.capacity := by
  induction uses generalizing m with
  | nil => rfl
  | cons u uses ih => exact (ih (m.use u).2).trans (moves_use m u).2

/-- **A cache keeps what was touched last.** Whatever is done to an empty cache, it then keeps
exactly the keys touched last since it was last cleared, the last touched first, as many as it has
room for; each has the value stored last for it. The next computation for a key is run once if the
key is not among them, and not at all if it is. -/
theorem run_keeps_recent (capacity : Nat) (uses : List (Use κ α ε)) :
    let (history, m) := (empty capacity : Memo κ α).run uses
    m.entries.map Prod.fst = (recent history).take capacity ∧
    m.size = min capacity (recent history).length ∧
    (∀ k, k ∈ (recent history).take capacity →
      ∃ a, m.peek k = some a ∧ lastStored k history = some a) ∧
    (∀ k, k ∉ (recent history).take capacity → m.peek k = none) ∧
    ∀ k (compute : κ → Except ε α) runs,
      ((m.getOrTryM k (counted compute)).run runs).2 =
        if k ∈ (recent history).take capacity then runs else runs + 1 := by
  have h := recalls_run (m := empty capacity) (recalls_nil capacity) uses
  have hcapacity := capacity_run (empty capacity : Memo κ α) uses
  rw [List.nil_append, hcapacity] at h
  generalize (empty capacity : Memo κ α).run uses = ran at h
  obtain ⟨history, m⟩ := ran
  -- the empty cache has room for `capacity` values
  replace h : Recalls capacity m.entries history := h
  have hmem (k : κ) : k ∈ (recent history).take capacity ↔ ∃ a, m.peek k = some a := by
    rw [← h.keys]
    exact Recency.exists_find?_iff.symm
  refine ⟨h.keys, ?_, fun k hk => ?_, fun k hk => ?_, fun k compute runs => ?_⟩
  · rw [size, ← List.length_map, h.keys, List.length_take]
  · obtain ⟨a, ha⟩ := (hmem k).1 hk
    exact ⟨a, ha, h.value k a ha⟩
  · exact Option.eq_none_iff_forall_ne_some.2 fun a ha => hk ((hmem k).2 ⟨a, ha⟩)
  · cases hpeek : m.peek k with
    | some a => rw [run_getOrTryM_of_some hpeek, if_pos ((hmem k).2 ⟨a, hpeek⟩)]
    | none =>
      have hk : k ∉ (recent history).take capacity := fun hk => by
        obtain ⟨a, ha⟩ := (hmem k).1 hk
        rw [hpeek] at ha
        cases ha
      rw [run_getOrTryM_of_none hpeek, if_neg hk]

end Memo

end TagCatalog
