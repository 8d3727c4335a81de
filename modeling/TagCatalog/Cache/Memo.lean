import TagCatalog.Cache.Recency

/-!
A cache of computed values with one owner, which keeps those last used.

* `Memo.get`: a look-up that counts and marks the value as used; `Memo.peek` does neither.
* `Memo.insert`: stores a value.
* `Memo.getOrTryM`: the cached value, or the computed one, which is then stored. Of a failed
  computation nothing is kept. At capacity zero nothing is ever kept.
* `Memo.getOrTry`: the same, with whether the computation was run.
-/

namespace TagCatalog

/-- A cache of values by key. -/
structure Memo (κ α : Type) where
  /-- The most values kept. -/
  capacity : Nat
  /-- The values kept, the last used first. -/
  entries : List (κ × α)
  stats : CacheStats
  deriving Repr, DecidableEq

namespace Memo

variable {κ α ε : Type} [DecidableEq κ]

/-- The cache without values. -/
def empty (capacity : Nat) : Memo κ α := ⟨capacity, [], .zero⟩

/-- The number of values kept. -/
def size (m : Memo κ α) : Nat := m.entries.length

/-- The value of a key, if it is kept. -/
def peek (m : Memo κ α) (k : κ) : Option α := Recency.find? k m.entries

/-- Whether a value is kept for a key. -/
def contains (m : Memo κ α) (k : κ) : Bool := (m.peek k).isSome

/-- Forgets all values; the counts stay. -/
def clear (m : Memo κ α) : Memo κ α := { m with entries := [] }

/-- The value of a key, marked as used; counted as a hit or a miss. -/
def get (m : Memo κ α) (k : κ) : Option α × Memo κ α :=
  match m.peek k with
  | some a => (some a, { m with entries := Recency.touch k m.entries, stats := m.stats.hit })
  | none => (none, { m with stats := m.stats.miss })

/-- Stores a value, at the cost of the one whose use lies furthest back if there is no room. -/
def insert (m : Memo κ α) (k : κ) (a : α) : Memo κ α :=
  if m.capacity = 0 then m
  else
    let (entries, dropped) := Recency.store m.capacity k a m.entries
    { m with entries, stats := m.stats.evict dropped }

/-- The value of a key, computed and stored if it is not kept. The computation may act in any
monad. -/
def getOrTryM {μ : Type → Type} [Monad μ] (m : Memo κ α) (k : κ) (compute : κ → μ (Except ε α)) :
    μ (Except ε α × Memo κ α) :=
  match m.get k with
  | (some a, m) => pure (.ok a, m)
  | (none, m) => do
    match ← compute k with
    | .ok a => return (.ok a, m.insert k a)
    | .error e => return (.error e, m)

/-- A computation that counts its runs. -/
def counted (compute : κ → Except ε α) (k : κ) : StateM Nat (Except ε α) := do
  modify (· + 1)
  return compute k

/-- What a look-up gave: whether the computation was run, and its value or failure. -/
structure Found (α ε : Type) where
  computed : Bool
  result : Except ε α

/-- The value of a key, computed and stored if it is not kept, and whether it was computed. -/
def getOrTry (m : Memo κ α) (k : κ) (compute : κ → Except ε α) : Found α ε × Memo κ α :=
  let ((result, m), runs) := (m.getOrTryM k (counted compute)).run 0
  (⟨runs ≠ 0, result⟩, m)

end Memo

end TagCatalog
