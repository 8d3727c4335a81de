import TagCatalog.Cache.Recency

/-!
A cache of computed values that may be used while a computation for it is under way.

* `Shared.start`: the cached value of a key, or a place for it that its computation then holds.
* `Shared.finish`: the end of a computation; its value is kept, and of a failure nothing is.
* `Shared.peek`: the value of a key, absent while it is being computed.
* `Shared.run`: a call whose computation makes calls of its own, with what each of them answers.

A call for a key whose place is held by a computation that has not ended waits for it; inside that
computation it would wait for ever.
-/

namespace TagCatalog

/-- The place of a value in the cache. -/
structure CachePlace (α : Type) where
  /-- Tells places apart, also two places of one key. -/
  ticket : Nat
  /-- The value, once computed. -/
  value : Option α
  deriving Repr, DecidableEq

/-- A cache of values by key, shared between nested computations. -/
structure Shared (κ α : Type) where
  /-- The most places kept. -/
  capacity : Nat
  /-- The places kept, the last used first. -/
  entries : List (κ × CachePlace α)
  stats : CacheStats
  /-- The ticket of the next new place. -/
  nextTicket : Nat
  /-- The tickets of the places held by computations under way. -/
  held : List Nat
  deriving Repr, DecidableEq

namespace Shared

variable {κ α ε : Type}

/-- The cache without places. -/
def empty (capacity : Nat) : Shared κ α := ⟨capacity, [], .zero, 0, []⟩

/-- The number of places kept, held ones among them. -/
def size (m : Shared κ α) : Nat := m.entries.length

/-- Forgets all places; the counts stay. -/
def clear (m : Shared κ α) : Shared κ α := { m with entries := [] }

variable [DecidableEq κ]

/-- The value of a key, if it is there and its place is not held. -/
def peek (m : Shared κ α) (k : κ) : Option α := do
  let place ← Recency.find? k m.entries
  if place.ticket ∈ m.held then none else place.value

/-- Whether a key has a value, as `peek` sees it. -/
def contains (m : Shared κ α) (k : κ) : Bool := (m.peek k).isSome

/-- How a call begins. -/
inductive Start (α : Type)
  /-- The value is cached. -/
  | hit (value : α)
  /-- The value has to be computed; the computation holds a place. -/
  | compute (ticket : Nat)
  /-- The place is held by a computation that has not ended. -/
  | wait
  deriving Repr, DecidableEq

/-- Puts a place into the cache as the last used. -/
def put (m : Shared κ α) (k : κ) (place : CachePlace α) : Shared κ α :=
  let (entries, dropped) := Recency.store m.capacity k place m.entries
  { m with entries, stats := m.stats.evict dropped }

/-- A computation begins to hold a place. -/
def hold (m : Shared κ α) (ticket : Nat) : Shared κ α :=
  { m with held := ticket :: m.held, stats := m.stats.miss }

/-- Begins a call for a key. At capacity zero every call computes and no place is kept. -/
def start (m : Shared κ α) (k : κ) : Start α × Shared κ α :=
  let fresh := m.nextTicket
  if m.capacity = 0 then (.compute fresh, { m.hold fresh with nextTicket := fresh + 1 })
  else match Recency.find? k m.entries with
    | none => (.compute fresh, { (m.put k ⟨fresh, none⟩).hold fresh with nextTicket := fresh + 1 })
    | some place =>
      let m := { m with entries := Recency.touch k m.entries }
      if place.ticket ∈ m.held then (.wait, m)
      else match place.value with
        | some a => (.hit a, { m with stats := m.stats.hit })
        | none => (.compute place.ticket, m.hold place.ticket)

/-- Ends a computation that holds a place. The value goes to the place if it is still kept; if the
key has no place at all by then, the place is put back. After a failure the place is given up. -/
def finish (m : Shared κ α) (k : κ) (ticket : Nat) (result : Except ε α) : Shared κ α :=
  let m := { m with held := m.held.erase ticket }
  if m.capacity = 0 then m
  else
    let kept := Recency.find? k m.entries
    let owned := kept.any fun place => place.ticket = ticket
    match result with
    | .ok a =>
      if owned then { m with entries := Recency.update k ⟨ticket, some a⟩ m.entries }
      else if kept.isNone then m.put k ⟨ticket, some a⟩
      else m
    | .error _ => if owned then { m with entries := Recency.remove k m.entries } else m

/-! ### Calls inside calls -/

/-- A use of the cache. -/
inductive Call (κ α ε : Type)
  /-- Wants the value of a key; if it has to be computed, the computation first makes calls of its
  own and then ends in this way. -/
  | value (key : κ) (inner : List (Call κ α ε)) (result : Except ε α)
  | peek (key : κ)
  | contains (key : κ)
  | clear

/-- What a call answers. -/
inductive Reply (α ε : Type)
  | value (result : Except ε α)
  | peeked (value : Option α)
  | contained (answer : Bool)
  | cleared
  /-- The call never ends. -/
  | stuck
  deriving Repr

/-- What a call did: its answer, what the calls of its computation did if that was run, and the
cache after it. -/
inductive Trace (κ α ε : Type)
  | node (reply : Reply α ε) (inner : Option (List (Trace κ α ε))) (after : Shared κ α)

/-- The answer of a call. -/
def Trace.reply : Trace κ α ε → Reply α ε
  | .node reply _ _ => reply

/-- What the calls of its computation did. -/
def Trace.inner : Trace κ α ε → Option (List (Trace κ α ε))
  | .node _ inner _ => inner

/-- The cache after a call. -/
def Trace.after : Trace κ α ε → Shared κ α
  | .node _ _ after => after

mutual

/-- Makes a call. -/
def run (m : Shared κ α) : Call κ α ε → Trace κ α ε
  | .peek k => .node (.peeked (m.peek k)) none m
  | .contains k => .node (.contained (m.contains k)) none m
  | .clear => .node .cleared none m.clear
  | .value k inner result =>
    match m.start k with
    | (.hit a, m) => .node (.value (.ok a)) none m
    | (.wait, m) => .node .stuck none m
    | (.compute ticket, m) =>
      let (traces, m) := runAll m inner
      .node (.value result) (some traces) (m.finish k ticket result)

/-- Makes calls one after another. -/
def runAll (m : Shared κ α) : List (Call κ α ε) → List (Trace κ α ε) × Shared κ α
  | [] => ([], m)
  | call :: rest =>
    let trace := run m call
    let (traces, m) := runAll trace.after rest
    (trace :: traces, m)

end

end Shared

end TagCatalog
