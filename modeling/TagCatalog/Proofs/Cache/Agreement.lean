import Mathlib.Tactic
import TagCatalog.Cache.Shared
import TagCatalog.Proofs.Cache.Computing

/-!
The shared cache, used by one caller at a time, is the cache with one owner.

The cache with one owner stores a value when it has been computed. The shared cache puts a place for
it in front before the computation begins, at the cost of the entry whose use lies furthest back, and
then fills the place or gives it up. The difference shows when a computation fails while the cache
is full: the entry that made room is gone.

* `CacheRequest`, `CacheAnswer`: what both caches are asked and answer; the computations asked for
  do not use the cache.
* `Agrees`: entries in the same order with the same values, the same counts, and no place held.
* `Shared.run_of_some`, `run_of_none`, `run_of_capacity_zero`: what a call does when nothing else is
  under way.
* `agrees_serve`: one request, answered alike; `agrees_serveAll`: requests one after another.
* `caches_agree`: the caches agree until a computation fails while they are full, and then differ by
  one entry.
-/

namespace TagCatalog

open Recency (find? remove mapValues)

variable {κ α ε : Type}

/-! ### Requests -/

/-- A request to a cache. A computation does not use the cache. -/
inductive CacheRequest (κ α ε : Type)
  | value (key : κ) (compute : κ → Except ε α)
  | peek (key : κ)
  | contains (key : κ)
  | size
  | clear

/-- The answer to a request. -/
inductive CacheAnswer (α ε : Type)
  /-- The value or the failure, and whether a computation was run for it. -/
  | value (found : Memo.Found α ε)
  | peeked (value : Option α)
  | contained (answer : Bool)
  | counted (size : Nat)
  | cleared
  /-- The call never ends. -/
  | stuck

/-- Whether a computation was run and failed. -/
def CacheAnswer.failed : CacheAnswer α ε → Bool
  | .value ⟨true, .error _⟩ => true
  | _ => false

/-- Serves requests one after another. -/
def serveAll {σ : Type} (serve : σ → CacheRequest κ α ε → CacheAnswer α ε × σ) (s : σ) :
    List (CacheRequest κ α ε) → List (CacheAnswer α ε) × σ
  | [] => ([], s)
  | request :: rest =>
    let (answer, s) := serve s request
    let (answers, s) := serveAll serve s rest
    (answer :: answers, s)

variable [DecidableEq κ]

namespace Memo

/-- Serves a request. -/
def serve (m : Memo κ α) : CacheRequest κ α ε → CacheAnswer α ε × Memo κ α
  | .value k compute => let (found, m) := m.getOrTry k compute; (.value found, m)
  | .peek k => (.peeked (m.peek k), m)
  | .contains k => (.contained (m.contains k), m)
  | .size => (.counted m.size, m)
  | .clear => (.cleared, m.clear)

/-- Whether there is no room for one more value. A cache that never keeps one is not full. -/
def isFull (m : Memo κ α) : Bool := 0 < m.capacity ∧ m.size = m.capacity

/-- Whether a request makes a computation fail while the cache is full. -/
def failsFull (m : Memo κ α) (request : CacheRequest κ α ε) : Bool :=
  (m.serve request).1.failed && m.isFull

/-- No computation fails while the cache is full. -/
def neverFailsFull (m : Memo κ α) : List (CacheRequest κ α ε) → Bool
  | [] => true
  | request :: rest => !m.failsFull request && neverFailsFull (m.serve request).2 rest

/-- The cache without the value whose use lies furthest back, which is counted as dropped. -/
def evictOldest (m : Memo κ α) : Memo κ α :=
  { m with entries := m.entries.dropLast, stats := m.stats.evict true }

end Memo

namespace Shared

/-- Serves a request. -/
def serve (s : Shared κ α) : CacheRequest κ α ε → CacheAnswer α ε × Shared κ α
  | .value k compute =>
    let trace := s.run (.value k [] (compute k))
    match trace.reply with
    | .value result => (.value ⟨trace.inner.isSome, result⟩, trace.after)
    | _ => (.stuck, trace.after)
  | .peek k => (.peeked (s.peek k), s)
  | .contains k => (.contained (s.contains k), s)
  | .size => (.counted s.size, s)
  | .clear => (.cleared, s.clear)

/-! ### Calls while nothing else is under way -/

variable {s : Shared κ α} {k : κ}

/-- A value that is there, in a place that is not held, is returned, and its place comes to the
front. -/
lemma run_of_some {place : CachePlace α} {a : α} (hcapacity : s.capacity ≠ 0)
    (hfind : find? k s.entries = some place) (hheld : place.ticket ∉ s.held)
    (hvalue : place.value = some a) (result : Except ε α) :
    s.run (.value k [] result) = .node (.value (.ok a)) none
      { s with entries := (k, place) :: remove k s.entries, stats := s.stats.hit } := by
  have hstart : s.start k = (.hit a,
      { s with entries := (k, place) :: remove k s.entries, stats := s.stats.hit }) := by
    rw [start, if_neg hcapacity, hfind]
    dsimp only
    rw [if_neg hheld, hvalue, Recency.touch_of_find? hfind]
  rw [run, hstart]

/-- Where nothing is kept every value is computed. -/
lemma run_of_capacity_zero (hcapacity : s.capacity = 0) (result : Except ε α) :
    s.run (.value k [] result) = .node (.value result) (some [])
      { s with stats := s.stats.miss, nextTicket := s.nextTicket + 1 } := by
  have hstart : s.start k = (.compute s.nextTicket,
      { s.hold s.nextTicket with nextTicket := s.nextTicket + 1 }) := by
    rw [start, if_pos hcapacity]
  rw [run, hstart]
  dsimp only [runAll]
  rw [finish, if_pos (by exact hcapacity)]
  simp only [hold, List.erase_cons_head]

/-- The cache while the value of a key that had no place is computed. The new place stands in front,
for which the entry furthest back has made room. -/
def reserved (s : Shared κ α) (k : κ) : Shared κ α :=
  { s with
    entries := (k, ⟨s.nextTicket, none⟩) :: s.entries.take (s.capacity - 1)
    stats := (s.stats.evict (s.capacity < s.entries.length + 1)).miss
    nextTicket := s.nextTicket + 1
    held := s.nextTicket :: s.held }

/-- The cache after the computation. The value stands in front; of a failure only the room is
left. -/
def settled (s : Shared κ α) (k : κ) (result : Except ε α) : Shared κ α :=
  { s with
    entries := match result with
      | .ok a => (k, ⟨s.nextTicket, some a⟩) :: s.entries.take (s.capacity - 1)
      | .error _ => s.entries.take (s.capacity - 1)
    stats := (s.stats.evict (s.capacity < s.entries.length + 1)).miss
    nextTicket := s.nextTicket + 1 }

/-- A call for a value that is not there makes a place for it. -/
lemma start_of_none (hcapacity : s.capacity ≠ 0) (hfind : find? k s.entries = none) :
    s.start k = (.compute s.nextTicket, s.reserved k) := by
  obtain ⟨room, hroom⟩ := Nat.exists_eq_succ_of_ne_zero hcapacity
  rw [start, if_neg hcapacity, hfind]
  simp only [put, hold, reserved, Recency.store, Recency.remove_of_find?_eq_none hfind, hroom,
    List.take_succ_cons, List.length_cons, Nat.succ_sub_one]

/-- The computation ends in the place that was made for it. -/
lemma finish_reserved (hcapacity : s.capacity ≠ 0) (hfind : find? k s.entries = none)
    (result : Except ε α) :
    (s.reserved k).finish k s.nextTicket result = s.settled k result := by
  have hrest := Recency.find?_take_eq_none hfind (s.capacity - 1)
  have hplace : find? k (s.reserved k).entries = some ⟨s.nextTicket, none⟩ := if_pos rfl
  have hroom : (s.reserved k).capacity ≠ 0 := hcapacity
  rw [finish]
  simp only [hplace, if_neg hroom, Option.any_some, decide_true, if_true]
  cases result with
  | ok a => simp only [reserved, settled, Recency.update_front hrest, List.erase_cons_head]
  | error e => simp only [reserved, settled, Recency.remove_front hrest, List.erase_cons_head]

/-- A value that is not there is computed, and of a failure nothing is kept. -/
lemma run_of_none (hcapacity : s.capacity ≠ 0) (hfind : find? k s.entries = none)
    (result : Except ε α) :
    s.run (.value k [] result) = .node (.value result) (some []) (s.settled k result) := by
  rw [run, start_of_none hcapacity hfind]
  dsimp only [runAll]
  rw [finish_reserved hcapacity hfind]

/-- A call that ends answers its request. -/
lemma serve_of_run {compute : κ → Except ε α} {result : Except ε α}
    {inner : Option (List (Trace κ α ε))} {after : Shared κ α}
    (hrun : s.run (.value k [] (compute k)) = .node (.value result) inner after) :
    s.serve (.value k compute) = (.value ⟨inner.isSome, result⟩, after) := by
  rw [serve, hrun]
  rfl

end Shared

/-! ### The two caches -/

/-- Two caches with as much room, with the same values in the same order of use and the same counts.
No place of the shared cache is held, and none is without a value. -/
structure Agrees (s : Shared κ α) (m : Memo κ α) : Prop where
  capacity : s.capacity = m.capacity
  contents : mapValues CachePlace.value s.entries = mapValues some m.entries
  stats : s.stats = m.stats
  held : s.held = []
  room : m.entries.length ≤ m.capacity

omit [DecidableEq κ] in
/-- Without values the caches agree. -/
lemma agrees_empty (capacity : Nat) :
    Agrees (Shared.empty capacity : Shared κ α) (Memo.empty capacity) where
  capacity := rfl
  contents := rfl
  stats := rfl
  held := rfl
  room := Nat.zero_le capacity

namespace Agrees

variable {s : Shared κ α} {m : Memo κ α} {k : κ} {a : α} (h : Agrees s m)

include h

/-- The values found are the same. -/
lemma find?_eq (k : κ) : (find? k s.entries).map CachePlace.value = (m.peek k).map some := by
  rw [← Recency.find?_mapValues, h.contents, Recency.find?_mapValues]
  rfl

/-- A value that one cache keeps has a place in the other. -/
lemma exists_place (hpeek : m.peek k = some a) :
    ∃ place, find? k s.entries = some place ∧ place.value = some a := by
  have hfind := h.find?_eq k
  rw [hpeek] at hfind
  exact Option.map_eq_some_iff.1 hfind

/-- A value that one cache does not keep has no place in the other. -/
lemma no_place (hpeek : m.peek k = none) : find? k s.entries = none := by
  have hfind := h.find?_eq k
  rw [hpeek] at hfind
  exact Option.map_eq_none_iff.1 hfind

/-- Looking without use gives the same. -/
lemma peek_eq (k : κ) : s.peek k = m.peek k := by
  cases hpeek : m.peek k with
  | some a =>
    obtain ⟨place, hfind, hvalue⟩ := h.exists_place hpeek
    simp [Shared.peek, hfind, h.held, hvalue]
  | none => simp [Shared.peek, h.no_place hpeek]

omit [DecidableEq κ] in
/-- As many values are kept. -/
lemma length_eq : s.entries.length = m.entries.length := by
  rw [← Recency.length_mapValues CachePlace.value, h.contents, Recency.length_mapValues]

/-- A cache that keeps a value has room for one. -/
lemma capacity_ne_zero (hpeek : m.peek k = some a) : s.capacity ≠ 0 := by
  intro hzero
  have hroom := h.room
  rw [← h.capacity, hzero, Nat.le_zero, List.length_eq_zero_iff] at hroom
  rw [Memo.peek, hroom] at hpeek
  cases hpeek

/-- The value that is found comes to the front in both. -/
lemma hit {place : CachePlace α} (hpeek : m.peek k = some a) (hvalue : place.value = some a) :
    Agrees { s with entries := (k, place) :: remove k s.entries, stats := s.stats.hit }
      { m with entries := (k, a) :: remove k m.entries, stats := m.stats.hit } where
  capacity := h.capacity
  contents := by
    simp only [Recency.mapValues_front, hvalue, h.contents]
  stats := congrArg CacheStats.hit h.stats
  held := h.held
  room := by
    have hk : k ∈ m.entries.map Prod.fst := Recency.exists_find?_iff.1 ⟨a, hpeek⟩
    have hle := Recency.length_front_le hk
    rw [← Recency.map_fst_remove, List.length_cons, List.length_map, List.length_map] at hle
    exact hle.trans h.room

omit [DecidableEq κ] in
/-- A cache that is not full has room. -/
lemma lt_of_not_isFull (hcapacity : s.capacity ≠ 0) (hfull : ¬ m.isFull) : m.size < m.capacity := by
  have hpos : 0 < m.capacity := Nat.pos_of_ne_zero (h.capacity ▸ hcapacity)
  have hne : m.size ≠ m.capacity := fun hsize => hfull (decide_eq_true ⟨hpos, hsize⟩)
  exact h.room.lt_of_ne hne

omit [DecidableEq κ] in
/-- All values are forgotten in both. -/
lemma clear : Agrees s.clear m.clear where
  capacity := h.capacity
  contents := rfl
  stats := h.stats
  held := h.held
  room := Nat.zero_le _

omit [DecidableEq κ] in
/-- A miss is counted in both. -/
lemma miss (nextTicket : Nat) : Agrees { s with stats := s.stats.miss, nextTicket := nextTicket }
    { m with stats := m.stats.miss } where
  capacity := h.capacity
  contents := h.contents
  stats := congrArg CacheStats.miss h.stats
  held := h.held
  room := h.room

omit [DecidableEq κ] in
/-- Room for one more leaves the same values in both. -/
lemma contents_take : mapValues CachePlace.value (s.entries.take (s.capacity - 1)) =
    mapValues some (m.entries.take (m.capacity - 1)) := by
  rw [Recency.mapValues_take, h.contents, h.capacity, Recency.mapValues_take]

omit [DecidableEq κ] in
/-- The entry that makes room is counted as if it had made it after the miss. -/
lemma stats_settled (result : Except ε α) : (s.settled k result).stats =
    m.stats.miss.evict (m.capacity < m.entries.length + 1) := by
  show CacheStats.miss (s.stats.evict (s.capacity < s.entries.length + 1)) = _
  rw [h.stats, h.capacity, h.length_eq, CacheStats.evict, CacheStats.evict]
  split <;> rfl

/-- A computed value is stored in both. -/
lemma settled_ok (hcapacity : s.capacity ≠ 0) (hpeek : m.peek k = none) (a : α) :
    Agrees (s.settled k (.ok a : Except ε α)) (({ m with stats := m.stats.miss }).insert k a) := by
  have hroom : m.capacity ≠ 0 := h.capacity ▸ hcapacity
  have hinsert : ({ m with stats := m.stats.miss } : Memo κ α).insert k a =
      { m with
        entries := (k, a) :: m.entries.take (m.capacity - 1)
        stats := m.stats.miss.evict (m.capacity < m.entries.length + 1) } := by
    rw [Memo.insert, if_neg hroom]
    simp only [Recency.store, Recency.remove_of_find?_eq_none hpeek, List.length_cons,
      List.take_cons (Nat.pos_of_ne_zero hroom)]
  rw [hinsert]
  exact {
    capacity := h.capacity
    contents := congrArg ((k, some a) :: ·) h.contents_take
    stats := h.stats_settled (.ok a)
    held := h.held
    room := by
      have hle := List.length_take_le (m.capacity - 1) m.entries
      show (m.entries.take (m.capacity - 1)).length + 1 ≤ m.capacity
      omega }

omit [DecidableEq κ] in
/-- Of a failure nothing is kept, and where there is room nothing is lost. -/
lemma settled_error (hroom : m.size < m.capacity) (e : ε) :
    Agrees (s.settled k (.error e : Except ε α)) { m with stats := m.stats.miss } where
  capacity := h.capacity
  contents := h.contents_take.trans (by rw [List.take_of_length_le (Nat.le_sub_one_of_lt hroom)])
  stats := (h.stats_settled (.error e)).trans (if_neg (by simpa [Memo.size] using hroom))
  held := h.held
  room := h.room

omit [DecidableEq κ] in
/-- Where there is no room, the entry furthest back is lost to a failure. -/
lemma settled_error_of_isFull (hfull : m.isFull) (e : ε) :
    Agrees (s.settled k (.error e : Except ε α))
      ({ m with stats := m.stats.miss } : Memo κ α).evictOldest := by
  have hsize : m.entries.length = m.capacity := (of_decide_eq_true hfull).2
  exact {
    capacity := h.capacity
    contents := h.contents_take.trans (by rw [← hsize, ← List.dropLast_eq_take]; rfl)
    stats := by
      rw [h.stats_settled, hsize, decide_eq_true (Nat.lt_succ_self _)]
      rfl
    held := h.held
    room := by
      show m.entries.dropLast.length ≤ m.capacity
      rw [List.length_dropLast]
      omega }

end Agrees

/-! ### One request after another -/

variable {s : Shared κ α} {m : Memo κ α}

/-- One request is answered alike, and leaves the caches alike; a computation that fails while they
are full takes the entry furthest back from the shared one. -/
lemma agrees_serve (h : Agrees s m) (request : CacheRequest κ α ε) :
    (s.serve request).1 = (m.serve request).1 ∧
    Agrees (s.serve request).2
      (if m.failsFull request then (m.serve request).2.evictOldest else (m.serve request).2) := by
  cases request with
  | peek k => exact ⟨congrArg CacheAnswer.peeked (h.peek_eq k), h⟩
  | contains k =>
    exact ⟨congrArg (fun value : Option α => CacheAnswer.contained value.isSome) (h.peek_eq k), h⟩
  | size => exact ⟨congrArg CacheAnswer.counted h.length_eq, h⟩
  | clear => exact ⟨rfl, h.clear⟩
  | value k compute =>
    cases hpeek : m.peek k with
    | some a =>
      obtain ⟨place, hfind, hvalue⟩ := h.exists_place hpeek
      have hheld : place.ticket ∉ s.held := h.held ▸ List.not_mem_nil
      rw [Memo.failsFull, Memo.serve, Memo.getOrTry_of_some hpeek, Memo.get_of_some hpeek,
        Shared.serve_of_run (Shared.run_of_some (h.capacity_ne_zero hpeek) hfind hheld hvalue _)]
      exact ⟨rfl, h.hit hpeek hvalue⟩
    | none =>
      rw [Memo.failsFull, Memo.serve, Memo.getOrTry_of_none hpeek, Memo.get_of_none hpeek]
      by_cases hcapacity : s.capacity = 0
      · have hzero : m.capacity = 0 := h.capacity ▸ hcapacity
        have hfull : m.isFull = false := decide_eq_false fun hfull => hfull.1.ne' hzero
        rw [Shared.serve_of_run (Shared.run_of_capacity_zero hcapacity _), hfull, Bool.and_false,
          Memo.settle_of_capacity_zero (by exact hzero)]
        exact ⟨rfl, h.miss _⟩
      · rw [Shared.serve_of_run (Shared.run_of_none hcapacity (h.no_place hpeek) _)]
        refine ⟨rfl, ?_⟩
        cases compute k with
        | ok a =>
          show Agrees (s.settled k (.ok a : Except ε α)) _
          exact h.settled_ok hcapacity hpeek a
        | error e =>
          show Agrees (s.settled k (.error e : Except ε α)) (if m.isFull then _ else _)
          split
          next hfull => exact h.settled_error_of_isFull hfull e
          next hfull => exact h.settled_error (h.lt_of_not_isFull hcapacity hfull) e

/-- Requests one after another are answered alike, and leave the caches alike, if no computation
fails while they are full. -/
lemma agrees_serveAll (h : Agrees s m) (requests : List (CacheRequest κ α ε))
    (hnever : m.neverFailsFull requests) :
    (serveAll Shared.serve s requests).1 = (serveAll Memo.serve m requests).1 ∧
    Agrees (serveAll Shared.serve s requests).2 (serveAll Memo.serve m requests).2 := by
  induction requests generalizing s m with
  | nil => exact ⟨rfl, h⟩
  | cons request requests ih =>
    rw [Memo.neverFailsFull, Bool.and_eq_true, Bool.not_eq_true'] at hnever
    obtain ⟨hanswer, hagrees⟩ := agrees_serve h request
    rw [hnever.1, if_neg Bool.false_ne_true] at hagrees
    obtain ⟨hanswers, hrest⟩ := ih hagrees hnever.2
    exact ⟨congrArg₂ List.cons hanswer hanswers, hrest⟩

/-- **Used by one caller at a time, the two caches agree.** However much both keep, and whatever is
asked of them one after another, they answer alike, run the same computations, and keep the same
values in the same order of use with the same counts, as long as no computation fails while they are
full. When one does, they still answer alike; the shared cache has then lost the entry whose use lies
furthest back, which it counts as dropped, and differs in nothing else. -/
theorem caches_agree (capacity : Nat) (requests : List (CacheRequest κ α ε))
    (hnever : (Memo.empty capacity : Memo κ α).neverFailsFull requests) :
    let (answers, s) := serveAll Shared.serve (Shared.empty capacity : Shared κ α) requests
    let (expected, m) := serveAll Memo.serve (Memo.empty capacity : Memo κ α) requests
    answers = expected ∧ Agrees s m ∧
    ∀ next : CacheRequest κ α ε, m.failsFull next →
      (s.serve next).1 = (m.serve next).1 ∧
      Agrees (s.serve next).2 (m.serve next).2.evictOldest := by
  obtain ⟨hanswers, hagrees⟩ := agrees_serveAll (agrees_empty capacity) requests hnever
  refine ⟨hanswers, hagrees, fun next hfails => ?_⟩
  have hnext := agrees_serve hagrees next
  rwa [if_pos hfails] at hnext

/-- With room for two values, the third takes the place of the one whose use lies furthest back. The
failure that follows takes another entry from the shared cache only. -/
theorem caches_agree_roomForTwo :
    let requests : List (CacheRequest Nat Nat Unit) :=
      [.value 1 .ok, .value 2 .ok, .value 1 fun _ => .error (), .value 3 .ok, .contains 2]
    let failing : CacheRequest Nat Nat Unit := .value 9 fun _ => .error ()
    let s := (serveAll Shared.serve (Shared.empty 2) requests).2
    let m := (serveAll Memo.serve (Memo.empty 2) requests).2
    (Memo.empty 2 : Memo Nat Nat).neverFailsFull requests ∧ m.failsFull failing ∧
    mapValues CachePlace.value s.entries = [(3, some 3), (1, some 1)] ∧
    mapValues CachePlace.value (s.serve failing).2.entries = [(3, some 3)] ∧
    (s.serve failing).2.stats = ⟨1, 4, 2⟩ := by
  intro requests failing s m
  have hnever : (Memo.empty 2 : Memo Nat Nat).neverFailsFull requests := by decide
  have hfails : m.failsFull failing := by decide
  obtain ⟨-, hagrees, hnext⟩ := caches_agree 2 requests hnever
  have hfailing := (hnext failing hfails).2
  exact ⟨hnever, hfails, hagrees.contents, hfailing.contents, hfailing.stats⟩

end TagCatalog
