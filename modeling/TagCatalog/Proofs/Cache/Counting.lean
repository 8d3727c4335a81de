import Mathlib.Tactic
import TagCatalog.Proofs.Cache.Bookkeeping
import TagCatalog.Proofs.Cache.History

/-!
The counts of a cache with one owner balance.

A value that is stored takes the place of one for the same key, or it is one more, and then another
may have to go. Only the last of these is counted by the cache. So what is kept, what had to go and
what was cleared away come to the values stored for keys that had none.

* `Memo.Tally`: what has been done to a cache. It is kept by looking at each use, at its answer and
  at the cache before it, and not at the counts.
* `Memo.size_insert`: a value stored is one more, or it is counted that another had to go.
* `Memo.Balances`: the counts and the tally say the same; `balances_use` is the step.
* `run_balances`: they say the same after any uses of an empty cache.
-/

namespace TagCatalog

open Recency (find? remove)

namespace Memo

variable {κ α ε : Type} [DecidableEq κ]

/-! ### Tallies -/

/-- What has been done to a cache. -/
structure Tally where
  /-- The look-ups that count as hits or misses. -/
  lookups : Nat
  /-- The computations run. -/
  computed : Nat
  /-- The look-ups that found nothing and for which nothing was to be computed. -/
  unfound : Nat
  /-- The values stored for keys that had none. -/
  stored : Nat
  /-- The values that were there when the cache was cleared. -/
  cleared : Nat

/-- Nothing has been done. -/
def Tally.blank : Tally := ⟨0, 0, 0, 0, 0⟩

/-- One if a value stored for a key is kept beside all others, and zero otherwise. Where nothing is
kept, nothing is stored. -/
def gains (m : Memo κ α) (k : κ) : Nat := if m.capacity ≠ 0 ∧ m.contains k = false then 1 else 0

/-- What has been done after one more use. The runs of a computation are counted by the computation
itself. -/
def Tally.used (t : Tally) (m : Memo κ α) (u : Use κ α ε) : Tally :=
  let gained := (Memo.stored (u, (m.use u).1)).elim 0 fun e => m.gains e.1
  match u with
  | .get k =>
    { t with
      lookups := t.lookups + 1
      unfound := t.unfound + if (m.get k).1.isNone then 1 else 0 }
  | .insert _ _ => { t with stored := t.stored + gained }
  | .getOrTry k compute =>
    { t with
      lookups := t.lookups + 1
      computed := ((m.getOrTryM k (counted compute)).run t.computed).2
      stored := t.stored + gained }
  | .contains _ => t
  | .peek _ => t
  | .clear => { t with cleared := t.cleared + m.size }

/-- What has been done after uses one after another. -/
def tally (m : Memo κ α) (t : Tally) : List (Use κ α ε) → Tally
  | [] => t
  | u :: rest => tally (m.use u).2 (t.used m u) rest

/-! ### Stored values -/

variable {m : Memo κ α} {k : κ} {a : α} {t : Tally}

/-- The entry that must go for lack of room is counted. -/
lemma stats_insert (m : Memo κ α) (k : κ) (a : α) : (m.insert k a).stats =
    if m.capacity = 0 then m.stats
    else m.stats.evict (m.capacity < ((k, a) :: remove k m.entries).length) := by
  rw [insert]
  split <;> rfl

/-- Storing is no hit. -/
@[simp] lemma hits_insert (m : Memo κ α) (k : κ) (a : α) :
    (m.insert k a).stats.hits = m.stats.hits := by
  rw [stats_insert]
  split <;> simp

/-- Storing is no miss. -/
@[simp] lemma misses_insert (m : Memo κ α) (k : κ) (a : α) :
    (m.insert k a).stats.misses = m.stats.misses := by
  rw [stats_insert]
  split <;> simp

/-- Where nothing is kept, nothing is stored. -/
lemma gains_of_capacity_zero (h : m.capacity = 0) (k : κ) : m.gains k = 0 :=
  if_neg fun hgains => hgains.1 h

/-- A value stored for a key that had none is one more, or it is counted that another had to go. -/
lemma size_insert (hnodup : (m.entries.map Prod.fst).Nodup) (hroom : m.size ≤ m.capacity) (k : κ)
    (a : α) : (m.insert k a).size + (m.insert k a).stats.evictions =
      m.size + m.stats.evictions + m.gains k := by
  by_cases hzero : m.capacity = 0
  · rw [insert, if_pos hzero, gains_of_capacity_zero hzero, Nat.add_zero]
  rw [size, entries_insert, stats_insert, if_neg hzero, if_neg hzero, List.length_take,
    CacheStats.evictions_evict, gains, contains]
  rw [size] at hroom ⊢
  cases hpeek : m.peek k with
  | some b =>
    -- the value takes the place of the old one
    have hlength := (Recency.perm_front hnodup hpeek).length_eq
    rw [List.length_cons] at hlength ⊢
    rw [if_neg (by simp), hlength, decide_eq_false hroom.not_gt, Nat.min_eq_right hroom,
      Bool.toNat_false, Nat.add_zero, Nat.add_zero]
  | none =>
    rw [if_pos ⟨hzero, rfl⟩, Recency.remove_of_find?_eq_none hpeek, List.length_cons]
    by_cases hfull : m.capacity < m.entries.length + 1
    · rw [decide_eq_true hfull, Bool.toNat_true]
      omega
    · rw [decide_eq_false hfull, Bool.toNat_false]
      omega

/-! ### Balance -/

/-- The counts of a cache and the tally say the same. -/
structure Balances (m : Memo κ α) (t : Tally) : Prop where
  lookups : m.stats.hits + m.stats.misses = t.lookups
  misses : m.stats.misses = t.computed + t.unfound
  stored : m.size + m.stats.evictions + t.cleared = t.stored
  zero : m.capacity = 0 → m.stats.hits = 0 ∧ m.stats.evictions = 0 ∧ t.stored = 0

namespace Recalls

variable {capacity : Nat} {entries : List (κ × α)} {history : List (Event κ α ε)}
  (h : Recalls capacity entries history)

include h

/-- No key has two entries. -/
lemma nodup : (entries.map Prod.fst).Nodup :=
  h.keys ▸ (nodup_recent history).sublist (List.take_sublist ..)

/-- No more is kept than there is room for. -/
lemma room : entries.length ≤ capacity := by
  rw [← List.length_map Prod.fst, h.keys]
  exact List.length_take_le ..

end Recalls

namespace Balances

variable (h : m.Balances t)

include h

/-- The counts balance when a value has been found. -/
lemma hits (hnodup : (m.entries.map Prod.fst).Nodup) (hroom : m.size ≤ m.capacity)
    (hpeek : m.peek k = some a) : (m.get k).2.Balances { t with lookups := t.lookups + 1 } := by
  have hlength := (Recency.perm_front hnodup hpeek).length_eq
  have hcapacity : m.capacity ≠ 0 := fun hzero => by
    have hnone : m.entries = [] := List.length_eq_zero_iff.1 (Nat.le_zero.1 (hzero ▸ hroom))
    rw [peek, hnone] at hpeek
    cases hpeek
  rw [get_of_some hpeek]
  exact {
    lookups := by rw [← h.lookups]; exact Nat.add_right_comm ..
    misses := h.misses
    stored := by rw [size, hlength]; exact h.stored
    zero := fun hzero => absurd hzero hcapacity }

/-- The counts balance when nothing has been found, if that is all. -/
lemma unfound (hpeek : m.peek k = none) :
    (m.get k).2.Balances { t with lookups := t.lookups + 1, unfound := t.unfound + 1 } := by
  rw [get_of_none hpeek]
  exact {
    lookups := congrArg (· + 1) h.lookups
    misses := congrArg (· + 1) h.misses
    stored := h.stored
    zero := h.zero }

/-- The counts balance when nothing has been found and a computation has been run. -/
lemma computed (hpeek : m.peek k = none) :
    (m.get k).2.Balances { t with lookups := t.lookups + 1, computed := t.computed + 1 } := by
  rw [get_of_none hpeek]
  exact {
    lookups := congrArg (· + 1) h.lookups
    misses := (congrArg (· + 1) h.misses).trans (Nat.add_right_comm ..)
    stored := h.stored
    zero := h.zero }

/-- The counts balance when a value has been stored. -/
lemma insert (hnodup : (m.entries.map Prod.fst).Nodup) (hroom : m.size ≤ m.capacity) (k : κ)
    (a : α) : (m.insert k a).Balances { t with stored := t.stored + m.gains k } := by
  have hsize := size_insert hnodup hroom k a
  exact {
    lookups := by rw [hits_insert, misses_insert]; exact h.lookups
    misses := (misses_insert m k a).trans h.misses
    stored := by
      have hstored := h.stored
      show (m.insert k a).size + (m.insert k a).stats.evictions + t.cleared = t.stored + m.gains k
      omega
    zero := fun hzero => by
      rw [capacity_insert] at hzero
      rw [hits_insert, stats_insert, if_pos hzero, gains_of_capacity_zero hzero]
      exact h.zero hzero }

omit [DecidableEq κ] in
/-- The counts balance when the cache has been cleared. -/
lemma clear : m.clear.Balances { t with cleared := t.cleared + m.size } where
  lookups := h.lookups
  misses := h.misses
  stored := by
    have hstored := h.stored
    show 0 + m.stats.evictions + (t.cleared + m.size) = t.stored
    omega
  zero := h.zero

end Balances

/-- A use changes the counts as it changes the tally. -/
lemma balances_use {history : List (Event κ α ε)} (h : m.Balances t)
    (hrecalls : Recalls m.capacity m.entries history) (u : Use κ α ε) :
    (m.use u).2.Balances (t.used m u) := by
  have hnodup := hrecalls.nodup
  have hroom := hrecalls.room
  cases u with
  | get k =>
    cases hpeek : m.peek k with
    | some a => simpa [use, Tally.used, get_of_some hpeek] using h.hits hnodup hroom hpeek
    | none => simpa [use, Tally.used, get_of_none hpeek] using h.unfound hpeek
  | insert k a => exact h.insert hnodup hroom k a
  | getOrTry k compute =>
    cases hpeek : m.peek k with
    | some a =>
      have hused : t.used m (.getOrTry k compute) = { t with lookups := t.lookups + 1 } := by
        rw [Tally.used, run_getOrTryM_of_some hpeek, use, getOrTry_of_some hpeek]
        rfl
      rw [hused, use, getOrTry_of_some hpeek]
      exact h.hits hnodup hroom hpeek
    | none =>
      have hget := h.computed hpeek
      rw [Tally.used, run_getOrTryM_of_none hpeek, use, getOrTry_of_none hpeek]
      rw [get_of_none hpeek] at hget ⊢
      cases compute k with
      | error e => exact hget
      | ok a => exact hget.insert hnodup hroom k a
  | contains k => exact h
  | peek k => exact h
  | clear => exact h.clear

/-- Uses one after another change the counts as they change the tally. -/
lemma balances_run {history : List (Event κ α ε)} (h : m.Balances t)
    (hrecalls : Recalls m.capacity m.entries history) (uses : List (Use κ α ε)) :
    (m.run uses).2.Balances (tally m t uses) := by
  induction uses generalizing m t history with
  | nil => exact h
  | cons u uses ih => exact ih (balances_use h hrecalls u) (recalls_use hrecalls u)

/-- **The counts of a cache balance.** Whatever is done to an empty cache, hits and misses together
are the look-ups; the misses are the computations run and the look-ups that found nothing and for
which nothing was to be computed; and the values kept, those that had to go and those cleared away
together are the values stored for keys that had none. Where there is no room, nothing is stored or
kept, nothing has to go and nothing is ever found. -/
theorem run_balances (capacity : Nat) (uses : List (Use κ α ε)) :
    let m := ((empty capacity : Memo κ α).run uses).2
    let t := tally (empty capacity) .blank uses
    m.stats.hits + m.stats.misses = t.lookups ∧
    m.stats.misses = t.computed + t.unfound ∧
    m.size + m.stats.evictions + t.cleared = t.stored ∧
    (capacity = 0 → m.stats.hits = 0 ∧ m.stats.evictions = 0 ∧ m.size = 0 ∧ t.stored = 0) := by
  intro m t
  have hrecalls : Recalls m.capacity m.entries _ :=
    recalls_run (m := empty capacity) (recalls_nil capacity) uses
  have hcapacity : m.capacity = capacity := capacity_run (empty capacity) uses
  have hempty : (empty capacity : Memo κ α).Balances .blank :=
    ⟨rfl, rfl, rfl, fun _ => ⟨rfl, rfl, rfl⟩⟩
  have h : m.Balances t := balances_run hempty (recalls_nil capacity) uses
  refine ⟨h.lookups, h.misses, h.stored, fun hzero => ?_⟩
  obtain ⟨hhits, hevictions, hstored⟩ := h.zero (hcapacity.trans hzero)
  have hsize : m.size = 0 := Nat.le_zero.1 (hrecalls.room.trans_eq (hcapacity.trans hzero))
  exact ⟨hhits, hevictions, hsize, hstored⟩

end Memo

end TagCatalog
