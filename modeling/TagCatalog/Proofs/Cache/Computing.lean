import Mathlib.Tactic
import TagCatalog.Cache.Memo
import TagCatalog.Proofs.Cache.Recency

/-!
What looking up, storing and computing do to a cache with one owner.

* `Memo.get_of_some`, `get_of_none`: a look-up.
* `Memo.entries_insert`: a stored value.
* `Memo.settle`: what a computation leaves in the cache.
* `Memo.run_getOrTryM_of_some`, `run_getOrTryM_of_none`: a computation is run once if the value is
  not kept, and not at all if it is.
-/

namespace TagCatalog

open Recency (find? remove)

namespace Memo

variable {κ α ε : Type} [DecidableEq κ] {m : Memo κ α} {k : κ} {a : α}

/-- A look-up finds what is kept, and puts it in front. -/
lemma get_of_some (h : m.peek k = some a) : m.get k =
    (some a, { m with entries := (k, a) :: remove k m.entries, stats := m.stats.hit }) := by
  rw [get, h]
  dsimp only
  rw [Recency.touch_of_find? h]

/-- A look-up that finds nothing is counted. -/
lemma get_of_none (h : m.peek k = none) : m.get k = (none, { m with stats := m.stats.miss }) := by
  rw [get, h]

/-- A stored value is put in front, if anything is kept at all. -/
lemma entries_insert (m : Memo κ α) (k : κ) (a : α) : (m.insert k a).entries =
    if m.capacity = 0 then m.entries else ((k, a) :: remove k m.entries).take m.capacity := by
  rw [insert]
  split <;> rfl

/-- Storing does not change how much is kept. -/
lemma capacity_insert (m : Memo κ α) (k : κ) (a : α) : (m.insert k a).capacity = m.capacity := by
  rw [insert]
  split <;> rfl

/-- The cache after a computation for a key, whose value is stored and whose failure is not. -/
def settle (m : Memo κ α) (k : κ) : Except ε α → Memo κ α
  | .ok a => m.insert k a
  | .error _ => m

/-- Where nothing is kept, a computation leaves nothing. -/
lemma settle_of_capacity_zero (h : m.capacity = 0) (k : κ) (result : Except ε α) :
    m.settle k result = m := by
  cases result with
  | ok a => exact if_pos h
  | error e => rfl

omit [DecidableEq κ] in
/-- A computation that is run is counted once, whatever is made of it. -/
lemma run_counted_bind {β : Type} (compute : κ → Except ε α) (k : κ)
    (f : Except ε α → StateM Nat β) (n : Nat) :
    (counted compute k >>= f).run n = (f (compute k)).run (n + 1) := rfl

/-- What is kept is not computed. -/
lemma run_getOrTryM_of_some (h : m.peek k = some a) (compute : κ → Except ε α) (n : Nat) :
    (m.getOrTryM k (counted compute)).run n = ((.ok a, (m.get k).2), n) := by
  rw [getOrTryM, get_of_some h]
  rfl

/-- What is not kept is computed once. -/
lemma run_getOrTryM_of_none (h : m.peek k = none) (compute : κ → Except ε α) (n : Nat) :
    (m.getOrTryM k (counted compute)).run n =
      ((compute k, (m.get k).2.settle k (compute k)), n + 1) := by
  rw [getOrTryM, get_of_none h]
  refine (run_counted_bind ..).trans ?_
  cases compute k <;> rfl

/-- What is kept is found. -/
lemma getOrTry_of_some (h : m.peek k = some a) (compute : κ → Except ε α) :
    m.getOrTry k compute = (⟨false, .ok a⟩, (m.get k).2) := by
  rw [getOrTry, run_getOrTryM_of_some h]
  rfl

/-- What is not kept is computed, and stored if the computation succeeds. -/
lemma getOrTry_of_none (h : m.peek k = none) (compute : κ → Except ε α) :
    m.getOrTry k compute = (⟨true, compute k⟩, (m.get k).2.settle k (compute k)) := by
  rw [getOrTry, run_getOrTryM_of_none h]
  rfl

end Memo

end TagCatalog
