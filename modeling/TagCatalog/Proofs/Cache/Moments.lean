import Mathlib.Logic.Function.Iterate
import Mathlib.Tactic
import TagCatalog.Proofs.Cache.Agreement

/-!
The shared cache from one moment to the next.

`Shared.run` says what a call answers and what it leaves. While it lasts, its computation makes
calls of its own, and these may compute in turn. Here the computations that have begun and not
ended are kept in a stack, so that every moment in between can be spoken of.

* `Shared.Moment`: the cache, the computations under way, the calls to come, and a `Ledger` of what
  has happened so far. A place is entered in it where it is put into the cache or given up.
* `Moment.next`: a call begins, or the innermost computation ends.
* `Moment.exists_next_run`: a call is run by going from moment to moment.
* `Shared.Starts`, `Shared.Finishes`: all that the begin and the end of a call can do to the cache;
  `Moment.Happens` is all that can happen from one moment to the next.
-/

namespace TagCatalog

open Recency (find? remove update)

namespace Shared

variable {κ α ε : Type} [DecidableEq κ]

/-! ### Ledgers -/

/-- What has happened to a cache. -/
structure Ledger where
  /-- The calls that have found a value or begun to compute one. -/
  passed : Nat
  /-- The computations begun. -/
  computed : Nat
  /-- The places put into the cache. -/
  placed : Nat
  /-- The places that were there when the cache was cleared. -/
  cleared : Nat
  /-- The places given up after failures. -/
  givenUp : Nat

/-- Nothing has happened. -/
def Ledger.blank : Ledger := ⟨0, 0, 0, 0, 0⟩

/-- The places put into a cache for a key when its computation begins or ends well: one if the key
has none, unless nothing is kept. -/
def puts (s : Shared κ α) (k : κ) : Nat :=
  if s.capacity ≠ 0 ∧ (find? k s.entries).isNone then 1 else 0

/-- The places given up when a computation for a key fails: its own, if the key still has it. -/
def givesUp (s : Shared κ α) (k : κ) (ticket : Nat) : Nat :=
  if s.capacity ≠ 0 ∧ (find? k s.entries).any (·.ticket = ticket) then 1 else 0

/-- A computation for a key begins. -/
def Ledger.begun (l : Ledger) (s : Shared κ α) (k : κ) : Ledger :=
  { l with
    passed := l.passed + 1
    computed := l.computed + 1
    placed := l.placed + s.puts k }

/-- A computation for a key ends. -/
def Ledger.ended (l : Ledger) (s : Shared κ α) (k : κ) (ticket : Nat) : Except ε α → Ledger
  | .ok _ => { l with placed := l.placed + s.puts k }
  | .error _ => { l with givenUp := l.givenUp + s.givesUp k ticket }

/-! ### Moments -/

/-- A computation under way. -/
structure Computing (κ α ε : Type) where
  key : κ
  /-- The ticket of the place that it holds. -/
  ticket : Nat
  /-- How it will end. -/
  result : Except ε α
  /-- The calls to make when it has ended. -/
  later : List (Call κ α ε)

/-- A moment in the use of a cache. -/
structure Moment (κ α ε : Type) where
  cache : Shared κ α
  /-- The computations under way, the innermost first. -/
  underWay : List (Computing κ α ε)
  /-- The calls to make before the innermost computation ends. -/
  calls : List (Call κ α ε)
  ledger : Ledger

namespace Moment

/-- Before the first of some calls. -/
def first (capacity : Nat) (calls : List (Call κ α ε)) : Moment κ α ε :=
  ⟨.empty capacity, [], calls, .blank⟩

/-- A call for a value begins. One that waits for ever is passed over, as `run` does. -/
def begin (m : Moment κ α ε) (k : κ) (inner : List (Call κ α ε)) (result : Except ε α)
    (later : List (Call κ α ε)) : Moment κ α ε :=
  match m.cache.start k with
  | (.hit _, cache) =>
    ⟨cache, m.underWay, later, { m.ledger with passed := m.ledger.passed + 1 }⟩
  | (.wait, cache) => ⟨cache, m.underWay, later, m.ledger⟩
  | (.compute ticket, cache) =>
    ⟨cache, ⟨k, ticket, result, later⟩ :: m.underWay, inner, m.ledger.begun m.cache k⟩

/-- The innermost computation ends. -/
def conclude (m : Moment κ α ε) (c : Computing κ α ε) (rest : List (Computing κ α ε)) :
    Moment κ α ε :=
  ⟨m.cache.finish c.key c.ticket c.result, rest, c.later,
    m.ledger.ended m.cache c.key c.ticket c.result⟩

/-- The next moment. After the last call nothing changes. -/
def next (m : Moment κ α ε) : Moment κ α ε :=
  match m.calls, m.underWay with
  | .value k inner result :: later, _ => m.begin k inner result later
  | .peek _ :: later, _ => { m with calls := later }
  | .contains _ :: later, _ => { m with calls := later }
  | .clear :: later, _ =>
    ⟨m.cache.clear, m.underWay, later,
      { m.ledger with cleared := m.ledger.cleared + m.cache.size }⟩
  | [], c :: rest => m.conclude c rest
  | [], [] => m

/-- The `n`-th moment, counted from zero, of some calls made of an empty cache. -/
def nth (capacity : Nat) (calls : List (Call κ α ε)) (n : Nat) : Moment κ α ε :=
  next^[n] (first capacity calls)

lemma nth_succ (capacity : Nat) (calls : List (Call κ α ε)) (n : Nat) :
    nth capacity calls (n + 1) = (nth capacity calls n).next :=
  Function.iterate_succ_apply' ..

/-! ### Calls as moments -/

mutual

/-- From the moment at which a call is to be made, the moments lead to the cache that `run` leaves,
with the same computations under way and the later calls still to be made. -/
theorem exists_next_run (call : Call κ α ε) (s : Shared κ α) (underWay : List (Computing κ α ε))
    (later : List (Call κ α ε)) (ledger : Ledger) :
    ∃ n ledger', next^[n] ⟨s, underWay, call :: later, ledger⟩ =
      ⟨(s.run call).after, underWay, later, ledger'⟩ := by
  match call with
  | .peek _ => exact ⟨1, ledger, rfl⟩
  | .contains _ => exact ⟨1, ledger, rfl⟩
  | .clear => exact ⟨1, _, rfl⟩
  | .value k inner result =>
    match hstart : s.start k with
    | (.hit a, cache) =>
      refine ⟨1, { ledger with passed := ledger.passed + 1 }, ?_⟩
      simp only [Function.iterate_one, next, begin, run, hstart, Trace.after]
    | (.wait, cache) =>
      refine ⟨1, ledger, ?_⟩
      simp only [Function.iterate_one, next, begin, run, hstart, Trace.after]
    | (.compute ticket, cache) =>
      -- one moment for the begin, those of the inner calls, and one for the end
      let c : Computing κ α ε := ⟨k, ticket, result, later⟩
      have hbegin : next ⟨s, underWay, .value k inner result :: later, ledger⟩ =
          ⟨cache, c :: underWay, inner, ledger.begun s k⟩ := by
        simp only [next, begin, hstart, c]
      obtain ⟨n, ledger', hinner⟩ :=
        exists_next_runAll inner cache (c :: underWay) (ledger.begun s k)
      refine ⟨1 + (n + 1), ledger'.ended (cache.runAll inner).2 k ticket result, ?_⟩
      rw [Function.iterate_add_apply, Function.iterate_add_apply, Function.iterate_one, hbegin,
        hinner]
      simp only [next, conclude, run, hstart, Trace.after, c]

/-- The same for calls one after another. -/
theorem exists_next_runAll (calls : List (Call κ α ε)) (s : Shared κ α)
    (underWay : List (Computing κ α ε)) (ledger : Ledger) :
    ∃ n ledger', next^[n] ⟨s, underWay, calls, ledger⟩ =
      ⟨(s.runAll calls).2, underWay, [], ledger'⟩ := by
  match calls with
  | [] => exact ⟨0, ledger, rfl⟩
  | call :: rest =>
    obtain ⟨n, ledger₁, hfirst⟩ := exists_next_run call s underWay rest ledger
    obtain ⟨n', ledger₂, hrest⟩ := exists_next_runAll rest (s.run call).after underWay ledger₁
    refine ⟨n' + n, ledger₂, ?_⟩
    rw [Function.iterate_add_apply, hfirst, hrest, runAll]

end

end Moment

/-! ### The begin and the end of a call -/

/-- What the begin of a call for a key does: where nothing is kept it computes; otherwise it
computes in a new place, or it waits for the place of the key, or it finds the value. -/
inductive Starts (s : Shared κ α) (k : κ) : Start α × Shared κ α → Prop
  | nowhere (hzero : s.capacity = 0) :
    Starts s k (.compute s.nextTicket, { s.hold s.nextTicket with nextTicket := s.nextTicket + 1 })
  | computes (hcapacity : s.capacity ≠ 0) (hfind : find? k s.entries = none) :
    Starts s k (.compute s.nextTicket, s.reserved k)
  | waits {place} (hfind : find? k s.entries = some place) (hheld : place.ticket ∈ s.held) :
    Starts s k (.wait, { s with entries := (k, place) :: remove k s.entries })
  | hits {place a} (hfind : find? k s.entries = some place) (hvalue : place.value = some a) :
    Starts s k
      (.hit a, { s with entries := (k, place) :: remove k s.entries, stats := s.stats.hit })

/-- The begin of a call does nothing else, if every place without a value is held. -/
lemma starts_start {s : Shared κ α} {k : κ}
    (hheld : ∀ place, find? k s.entries = some place → place.value = none → place.ticket ∈ s.held) :
    s.Starts k (s.start k) := by
  by_cases hcapacity : s.capacity = 0
  · rw [start, if_pos hcapacity]
    exact .nowhere hcapacity
  cases hfind : find? k s.entries with
  | none =>
    rw [start_of_none hcapacity hfind]
    exact .computes hcapacity hfind
  | some place =>
    rw [start, if_neg hcapacity, hfind]
    dsimp only
    rw [Recency.touch_of_find? hfind]
    by_cases hplace : place.ticket ∈ s.held
    · rw [if_pos hplace]
      exact .waits hfind hplace
    rw [if_neg hplace]
    cases hvalue : place.value with
    | some a => exact .hits hfind hvalue
    | none => exact absurd (hheld place hfind hvalue) hplace

/-- The cache when a place is no longer held. -/
def released (s : Shared κ α) (ticket : Nat) : Shared κ α :=
  { s with held := s.held.erase ticket }

/-- What the end of a computation does besides releasing its place: the place gets its value, or
comes back with it, or is given up after a failure. A place of another call is left alone. -/
inductive Finishes (s : Shared κ α) (k : κ) (ticket : Nat) : Except ε α → Shared κ α → Prop
  | nowhere {result} (hzero : s.capacity = 0) : Finishes s k ticket result (s.released ticket)
  | fills {a place} (hfind : find? k s.entries = some place) (hticket : place.ticket = ticket) :
    Finishes s k ticket (.ok a)
      { s.released ticket with entries := update k ⟨ticket, some a⟩ s.entries }
  | returns {a} (hcapacity : s.capacity ≠ 0) (hfind : find? k s.entries = none) :
    Finishes s k ticket (.ok a)
      { s.released ticket with
        entries := (k, ⟨ticket, some a⟩) :: s.entries.take (s.capacity - 1)
        stats := s.stats.evict (s.capacity < s.entries.length + 1) }
  | givesUp {e place} (hfind : find? k s.entries = some place) (hticket : place.ticket = ticket) :
    Finishes s k ticket (.error e) { s.released ticket with entries := remove k s.entries }
  | leaves {result} (hother : ∀ place, find? k s.entries = some place → place.ticket ≠ ticket)
    (hplace : result.toOption.isSome → (find? k s.entries).isSome) :
    Finishes s k ticket result (s.released ticket)

/-- A new place goes to the front, at the cost of the one furthest back if there is no room. -/
lemma put_of_none {s : Shared κ α} {k : κ} (hcapacity : s.capacity ≠ 0)
    (hfind : find? k s.entries = none) (place : CachePlace α) :
    s.put k place =
      { s with
        entries := (k, place) :: s.entries.take (s.capacity - 1)
        stats := s.stats.evict (s.capacity < s.entries.length + 1) } := by
  simp only [put, Recency.store, Recency.remove_of_find?_eq_none hfind, List.length_cons,
    List.take_cons (Nat.pos_of_ne_zero hcapacity)]

/-- The end of a computation does nothing else. -/
lemma finishes_finish (s : Shared κ α) (k : κ) (ticket : Nat) (result : Except ε α) :
    s.Finishes k ticket result (s.finish k ticket result) := by
  by_cases hcapacity : s.capacity = 0
  · rw [finish, if_pos (by exact hcapacity)]
    exact .nowhere hcapacity
  rw [finish, if_neg (by exact hcapacity)]
  cases hfind : find? k s.entries with
  | none =>
    cases result with
    | error e => exact .leaves (by simp [hfind]) (by simp [Except.toOption])
    | ok a =>
      simp only [Option.any_none, Option.isNone_none, if_true, Bool.false_eq_true, if_false]
      rw [put_of_none (by exact hcapacity) (by exact hfind)]
      exact .returns hcapacity hfind
  | some place =>
    by_cases hticket : place.ticket = ticket
    · simp only [Option.any_some, hticket, decide_true, if_true]
      cases result with
      | ok a => exact .fills hfind hticket
      | error e => exact .givesUp hfind hticket
    · have hother : ∀ other, find? k s.entries = some other → other.ticket ≠ ticket := by
        simpa [hfind] using hticket
      simp only [Option.any_some, hticket, decide_false, Option.isNone_some, Bool.false_eq_true,
        if_false]
      cases result with
      | ok a => exact .leaves hother fun _ => by rw [hfind]; rfl
      | error e => exact .leaves hother (by simp [Except.toOption])

section

variable {s s' : Shared κ α} {k : κ}

/-- The begin of a call does not change how much is kept. -/
lemma Starts.capacity_eq {begun : Start α} (h : s.Starts k (begun, s')) :
    s'.capacity = s.capacity := by
  cases h <;> rfl

/-- The end of a computation does not change how much is kept. -/
lemma Finishes.capacity_eq {ticket : Nat} {result : Except ε α}
    (h : s.Finishes k ticket result s') : s'.capacity = s.capacity := by
  cases h <;> rfl

end

/-! ### From one moment to the next -/

namespace Moment

/-- All that can happen from one moment to the next. -/
inductive Happens (m : Moment κ α ε) : Moment κ α ε → Prop
  /-- The cache is looked at, or nothing is left to do. -/
  | looks (later) : Happens m { m with calls := later }
  | clears {later} (hcalls : m.calls = .clear :: later) :
    Happens m ⟨m.cache.clear, m.underWay, later,
      { m.ledger with cleared := m.ledger.cleared + m.cache.size }⟩
  | hits {k inner result later a cache} (hcalls : m.calls = .value k inner result :: later)
    (hstarts : m.cache.Starts k (.hit a, cache)) :
    Happens m ⟨cache, m.underWay, later, { m.ledger with passed := m.ledger.passed + 1 }⟩
  | waits {k inner result later cache} (hcalls : m.calls = .value k inner result :: later)
    (hstarts : m.cache.Starts k (.wait, cache)) :
    Happens m ⟨cache, m.underWay, later, m.ledger⟩
  | computes {k inner result later ticket cache} (hcalls : m.calls = .value k inner result :: later)
    (hstarts : m.cache.Starts k (.compute ticket, cache)) :
    Happens m ⟨cache, ⟨k, ticket, result, later⟩ :: m.underWay, inner,
      m.ledger.begun m.cache k⟩
  | ends {c rest cache} (hunderWay : m.underWay = c :: rest)
    (hfinishes : m.cache.Finishes c.key c.ticket c.result cache) :
    Happens m ⟨cache, rest, c.later, m.ledger.ended m.cache c.key c.ticket c.result⟩

/-- Nothing else happens, if every place without a value is held. -/
lemma happens_next {m : Moment κ α ε}
    (hheld : ∀ k place, find? k m.cache.entries = some place → place.value = none →
      place.ticket ∈ m.cache.held) : m.Happens m.next := by
  fun_cases next m with
  | case1 k inner result later hcalls =>
    have hstarts := starts_start (hheld k)
    rw [begin]
    generalize m.cache.start k = started at hstarts
    obtain ⟨begun, cache⟩ := started
    cases begun with
    | hit a => exact .hits hcalls hstarts
    | wait => exact .waits hcalls hstarts
    | compute ticket => exact .computes hcalls hstarts
  | case2 => exact .looks _
  | case3 => exact .looks _
  | case4 later hcalls => exact .clears hcalls
  | case5 c rest hunderWay => exact .ends hunderWay (finishes_finish ..)
  | case6 => exact .looks m.calls

end Moment

end Shared

end TagCatalog
