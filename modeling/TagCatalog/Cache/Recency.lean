/-!
Entries in order of use, the last used one first.

* `Recency.find?`, `Recency.remove`, `Recency.touch`: look up, drop, and mark as used.
* `Recency.store`: a value under a key as the last used one; where the entries would be more than
  the capacity, the one whose use lies furthest back is dropped.
-/

namespace TagCatalog

/-- What has become of the look-ups of a cache. -/
structure CacheStats where
  hits : Nat
  misses : Nat
  evictions : Nat
  deriving Repr, DecidableEq

namespace CacheStats

/-- Nothing has been looked up. -/
def zero : CacheStats := ⟨0, 0, 0⟩

instance : Inhabited CacheStats := ⟨zero⟩

/-- One more look-up that found a value. -/
def hit (s : CacheStats) : CacheStats := { s with hits := s.hits + 1 }

/-- One more look-up that found none. -/
def miss (s : CacheStats) : CacheStats := { s with misses := s.misses + 1 }

/-- One more entry dropped for lack of room, if one was. -/
def evict (s : CacheStats) (dropped : Bool) : CacheStats :=
  if dropped then { s with evictions := s.evictions + 1 } else s

/-- The part of the look-ups that found a value; zero before the first. -/
def hitRate (s : CacheStats) : Float :=
  if s.hits + s.misses = 0 then 0
  else (UInt64.ofNat s.hits).toFloat / (UInt64.ofNat (s.hits + s.misses)).toFloat

end CacheStats

namespace Recency

variable {κ α : Type} [DecidableEq κ]

/-- The value of a key. -/
def find? (k : κ) : List (κ × α) → Option α
  | [] => none
  | e :: rest => if e.1 = k then some e.2 else find? k rest

/-- The entries without that of a key. -/
def remove (k : κ) (l : List (κ × α)) : List (κ × α) := l.filter fun e => e.1 ≠ k

/-- The entries with that of a key, if there is one, as the last used. -/
def touch (k : κ) (l : List (κ × α)) : List (κ × α) :=
  match find? k l with
  | some a => (k, a) :: remove k l
  | none => l

/-- Changes the value of a key in its place. -/
def update (k : κ) (a : α) (l : List (κ × α)) : List (κ × α) :=
  l.map fun e => if e.1 = k then (k, a) else e

/-- The entries with a value under a key as the last used, of which no more than `capacity` are
kept, and whether one was dropped. -/
def store (capacity : Nat) (k : κ) (a : α) (l : List (κ × α)) : List (κ × α) × Bool :=
  let all := (k, a) :: remove k l
  (all.take capacity, capacity < all.length)

end Recency

end TagCatalog
