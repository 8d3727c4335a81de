import Mathlib.Tactic
import TagCatalog.Proofs.Cache.Agreement
import TagCatalog.Proofs.Cache.Moments

/-!
The shared cache keeps its books, however calls are nested.

A place can be dropped for lack of room, cleared away or replaced by another place of its key while
its computation is still under way. The end of the computation then has to do without it. Whatever
happens in between, no place without a value is left behind, and the counts add up.

* `Shared.Sound`: the places kept are no more than there is room for, and those without a value
  belong to computations under way.
* `Shared.Balanced`: the counts of the cache agree with the ledger.
* `Moment.Happens.inOrder`: the books stay in order whatever happens; `Moment.inOrder_nth`: they
  are in order at every moment.
* `shared_keeps_books`: what holds at every moment of every use of the cache.
-/

namespace TagCatalog

open Recency (find? remove update)

/-! ### Counts -/

namespace CacheStats

@[simp] lemma hits_evict (s : CacheStats) (dropped : Bool) : (s.evict dropped).hits = s.hits := by
  cases dropped <;> rfl

@[simp] lemma misses_evict (s : CacheStats) (dropped : Bool) :
    (s.evict dropped).misses = s.misses := by
  cases dropped <;> rfl

@[simp] lemma evictions_evict (s : CacheStats) (dropped : Bool) :
    (s.evict dropped).evictions = s.evictions + dropped.toNat := by
  cases dropped <;> rfl

end CacheStats

namespace Shared

variable {κ α ε : Type} [DecidableEq κ]

/-! ### Places -/

/-- The places kept are no more than there is room for, and no key has two. A place without a value
belongs to a computation under way, and these are what holds places. -/
structure Sound (s : Shared κ α) (underWay : List (Computing κ α ε)) : Prop where
  nodup : (s.entries.map Prod.fst).Nodup
  room : s.size ≤ s.capacity
  held : s.held = underWay.map Computing.ticket
  owner : ∀ k place, (k, place) ∈ s.entries → place.value = none →
    ∃ c ∈ underWay, c.key = k ∧ c.ticket = place.ticket

omit [DecidableEq κ] in
/-- Without places all is sound. -/
lemma sound_of_nil {s : Shared κ α} {underWay : List (Computing κ α ε)} (hentries : s.entries = [])
    (hheld : s.held = underWay.map Computing.ticket) : s.Sound underWay where
  nodup := by rw [hentries]; exact List.nodup_nil
  room := by rw [size, hentries]; exact Nat.zero_le _
  held := hheld
  owner := by rw [hentries]; nofun

namespace Sound

variable {s s' : Shared κ α} {underWay : List (Computing κ α ε)} {k : κ}

omit [DecidableEq κ] in
/-- Where nothing is kept there are no places. -/
lemma entries_eq_nil (h : s.Sound underWay) (hzero : s.capacity = 0) : s.entries = [] :=
  List.length_eq_zero_iff.1 (Nat.le_zero.1 (hzero ▸ h.room))

/-- A place without a value is held. -/
lemma mem_held (h : s.Sound underWay) (k : κ) (place : CachePlace α)
    (hfind : find? k s.entries = some place) (hvalue : place.value = none) :
    place.ticket ∈ s.held := by
  obtain ⟨c, hc, -, hticket⟩ := h.owner k place (Recency.mem_of_find? hfind) hvalue
  rw [h.held, ← hticket]
  exact List.mem_map_of_mem hc

/-- A place that is found comes to the front. -/
lemma front (h : s.Sound underWay) {place : CachePlace α} (hfind : find? k s.entries = some place)
    (stats : CacheStats) :
    Sound { s with entries := (k, place) :: remove k s.entries, stats := stats } underWay where
  nodup := ((Recency.perm_front h.nodup hfind).map Prod.fst).nodup_iff.2 h.nodup
  room := (Recency.perm_front h.nodup hfind).length_eq.trans_le h.room
  held := h.held
  owner j other hother :=
    h.owner j other ((Recency.perm_front h.nodup hfind).mem_iff.1 hother)

omit [DecidableEq κ] in
/-- One new place in front of those for which there is still room. -/
lemma length_new_le {place : CachePlace α} (hcapacity : s.capacity ≠ 0) :
    ((k, place) :: s.entries.take (s.capacity - 1)).length ≤ s.capacity := by
  rw [List.length_cons, List.length_take]
  omega

/-- A new place belongs to the computation that begins. -/
lemma reserved (h : s.Sound underWay) (hcapacity : s.capacity ≠ 0)
    (hfind : find? k s.entries = none) (result : Except ε α) (later : List (Call κ α ε)) :
    Sound (s.reserved k) (⟨k, s.nextTicket, result, later⟩ :: underWay) where
  nodup := Recency.nodup_new h.nodup hfind _
  room := length_new_le hcapacity
  held := congrArg (s.nextTicket :: ·) h.held
  owner j place hplace hvalue := by
    obtain hnew | hold := List.mem_cons.1 hplace
    · cases hnew
      exact ⟨_, List.mem_cons_self, rfl, rfl⟩
    · obtain ⟨c, hc, howns⟩ := h.owner j place (List.mem_of_mem_take hold) hvalue
      exact ⟨c, List.mem_cons_of_mem _ hc, howns⟩

/-- A value is found soundly. -/
lemma hits (h : s.Sound underWay) {a : α} (hstarts : s.Starts k (.hit a, s')) :
    s'.Sound underWay := by
  cases hstarts with
  | hits hfind => exact h.front hfind _

/-- A computation begins soundly. -/
lemma computes (h : s.Sound underWay) {ticket : Nat} (hstarts : s.Starts k (.compute ticket, s'))
    (result : Except ε α) (later : List (Call κ α ε)) :
    s'.Sound (⟨k, ticket, result, later⟩ :: underWay) := by
  cases hstarts with
  | nowhere hzero =>
    exact sound_of_nil (h.entries_eq_nil hzero) (congrArg (s.nextTicket :: ·) h.held)
  | computes hcapacity hfind => exact h.reserved hcapacity hfind result later

omit [DecidableEq κ] in
/-- A place without a value that the ending computation does not own has another owner. -/
lemma exists_owner {c : Computing κ α ε} {rest : List (Computing κ α ε)} (h : s.Sound (c :: rest))
    {place : CachePlace α} (hplace : (k, place) ∈ s.entries) (hvalue : place.value = none)
    (hother : k = c.key → place.ticket ≠ c.ticket) :
    ∃ c' ∈ rest, c'.key = k ∧ c'.ticket = place.ticket := by
  obtain ⟨c', hc', hkey, hticket⟩ := h.owner k place hplace hvalue
  obtain rfl | hrest := List.mem_cons.1 hc'
  · exact absurd hticket.symm (hother hkey.symm)
  · exact ⟨c', hrest, hkey, hticket⟩

/-- The end of the innermost computation leaves no place of its own without a value. -/
lemma finishes {c : Computing κ α ε} {rest : List (Computing κ α ε)} (h : s.Sound (c :: rest))
    (hfinishes : s.Finishes c.key c.ticket c.result s') : s'.Sound rest := by
  have hheld : s.held.erase c.ticket = rest.map Computing.ticket := by
    rw [h.held, List.map_cons, List.erase_cons_head]
  generalize hresult : c.result = result at hfinishes
  cases hfinishes with
  | nowhere hzero => exact sound_of_nil (h.entries_eq_nil hzero) hheld
  | fills hfind hticket =>
    exact {
      nodup := by rw [Recency.map_fst_update]; exact h.nodup
      room := by
        rw [size, ← List.length_map Prod.fst, Recency.map_fst_update, List.length_map]
        exact h.room
      held := hheld
      owner := fun j place hplace hvalue => by
        obtain hfilled | ⟨hplace, hj⟩ := Recency.mem_update hplace
        · cases hfilled
          cases hvalue
        · exact h.exists_owner hplace hvalue fun hkey => absurd hkey hj }
  | returns hcapacity hfind =>
    exact {
      nodup := Recency.nodup_new h.nodup hfind _
      room := length_new_le hcapacity
      held := hheld
      owner := fun j place hplace hvalue => by
        obtain hback | hplace := List.mem_cons.1 hplace
        · cases hback
          cases hvalue
        · have hplace := List.mem_of_mem_take hplace
          refine h.exists_owner hplace hvalue fun hkey => ?_
          have hmem : c.key ∈ s.entries.map Prod.fst := hkey ▸ List.mem_map_of_mem hplace
          exact absurd hmem (Recency.find?_eq_none_iff.1 hfind) }
  | givesUp hfind hticket =>
    exact {
      nodup := h.nodup.sublist (List.filter_sublist.map Prod.fst)
      room := (List.length_filter_le _ _).trans h.room
      held := hheld
      owner := fun j place hplace hvalue => by
        obtain ⟨hplace, hj⟩ := List.mem_filter.1 hplace
        exact h.exists_owner hplace hvalue fun hkey => absurd hkey (of_decide_eq_true hj) }
  | leaves hother =>
    exact {
      nodup := h.nodup
      room := h.room
      held := hheld
      owner := fun j place hplace hvalue => by
        refine h.exists_owner hplace hvalue fun hkey => hother place ?_
        exact hkey ▸ Recency.find?_of_mem h.nodup hplace }

end Sound

/-! ### Books -/

/-- The counts of a cache and the ledger say the same: every call that got past its place found a
value or missed one, every miss is a computation, and of the places put into the cache those are
left that were not dropped for lack of room, cleared or given up. -/
structure Balanced (s : Shared κ α) (ledger : Ledger) : Prop where
  passed : s.stats.hits + s.stats.misses = ledger.passed
  computed : s.stats.misses = ledger.computed
  placed : s.stats.evictions + ledger.cleared + ledger.givenUp + s.size = ledger.placed

section

variable {s s' : Shared κ α} {k : κ}

/-- Where nothing is kept no place is put. -/
lemma puts_of_zero (h : s.capacity = 0) : s.puts k = 0 := if_neg fun hand => hand.1 h

/-- Where the key has a place none is put. -/
lemma puts_of_isSome (h : (find? k s.entries).isSome) : s.puts k = 0 :=
  if_neg fun hand => by simp [Option.isNone_iff_eq_none.1 hand.2] at h

/-- Where the key has no place one is put. -/
lemma puts_of_none (hcapacity : s.capacity ≠ 0) (h : find? k s.entries = none) : s.puts k = 1 :=
  if_pos ⟨hcapacity, by rw [h]; rfl⟩

/-- Where nothing is kept no place is given up. -/
lemma givesUp_of_zero (h : s.capacity = 0) (ticket : Nat) : s.givesUp k ticket = 0 :=
  if_neg fun hand => hand.1 h

/-- The place of another computation is not given up. -/
lemma givesUp_of_other {ticket : Nat}
    (h : ∀ place, find? k s.entries = some place → place.ticket ≠ ticket) :
    s.givesUp k ticket = 0 := by
  refine if_neg fun hand => ?_
  obtain ⟨place, hfind, hticket⟩ := (Option.any_eq_true ..).1 hand.2
  exact h place hfind (of_decide_eq_true hticket)

/-- A place of its own is given up. -/
lemma givesUp_of_some {place : CachePlace α} (hcapacity : s.capacity ≠ 0)
    (h : find? k s.entries = some place) : s.givesUp k place.ticket = 1 :=
  if_pos ⟨hcapacity, by simp [h]⟩

omit [DecidableEq κ] in
/-- Either the new place is one more, or it is counted that another one had to go. -/
lemma length_new (k : κ) (place : CachePlace α) (hcapacity : s.capacity ≠ 0)
    (hroom : s.size ≤ s.capacity) :
    ((k, place) :: s.entries.take (s.capacity - 1)).length +
      (decide (s.capacity < s.entries.length + 1)).toNat = s.size + 1 := by
  rw [size] at hroom
  rw [List.length_cons, List.length_take, size]
  by_cases hfull : s.capacity < s.entries.length + 1
  · rw [decide_eq_true hfull, Bool.toNat_true]
    omega
  · rw [decide_eq_false hfull, Bool.toNat_false]
    omega

end

namespace Balanced

variable {s s' : Shared κ α} {ledger : Ledger} {k : κ}

/-- The books balance when a computation has begun. -/
lemma computes (hbooks : s.Balanced ledger) (hroom : s.size ≤ s.capacity) {ticket : Nat}
    (hstarts : s.Starts k (.compute ticket, s')) : s'.Balanced (ledger.begun s k) := by
  obtain ⟨hpassed, hcomputed, hplaced⟩ := hbooks
  cases hstarts with
  | nowhere hzero =>
    refine ⟨congrArg (· + 1) hpassed, congrArg (· + 1) hcomputed, ?_⟩
    rw [Ledger.begun, puts_of_zero hzero]
    exact hplaced
  | computes hcapacity hfind =>
    have hlength := length_new k ⟨s.nextTicket, none⟩ hcapacity hroom
    refine ⟨?_, ?_, ?_⟩
    · simpa [Ledger.begun, reserved, CacheStats.miss, ← Nat.add_assoc] using hpassed
    · simpa [Ledger.begun, reserved, CacheStats.miss] using hcomputed
    · rw [Ledger.begun, puts_of_none hcapacity hfind, ← hplaced]
      simp only [reserved, CacheStats.miss, CacheStats.evictions_evict, size] at hlength ⊢
      omega

/-- The books balance when a place has come to the front. -/
lemma front (hbooks : s.Balanced ledger) (hnodup : (s.entries.map Prod.fst).Nodup)
    {place : CachePlace α} (hfind : find? k s.entries = some place) :
    Balanced { s with entries := (k, place) :: remove k s.entries } ledger := by
  refine ⟨hbooks.passed, hbooks.computed, ?_⟩
  rw [size, (Recency.perm_front hnodup hfind).length_eq]
  exact hbooks.placed

/-- The books balance when a value has been found. -/
lemma hits (hbooks : s.Balanced ledger) (hnodup : (s.entries.map Prod.fst).Nodup) {a : α}
    (hstarts : s.Starts k (.hit a, s')) :
    s'.Balanced { ledger with passed := ledger.passed + 1 } := by
  cases hstarts with
  | hits hfind =>
    obtain ⟨hpassed, hcomputed, hplaced⟩ := hbooks.front hnodup hfind
    refine ⟨?_, hcomputed, hplaced⟩
    rw [← hpassed]
    exact Nat.add_right_comm ..

/-- The books balance when a computation has ended that neither puts a place nor gives one up. -/
lemma released (hbooks : s.Balanced ledger) {ticket : Nat} (result : Except ε α)
    (hputs : result.toOption.isSome → s.puts k = 0) (hgives : s.givesUp k ticket = 0) :
    (s.released ticket).Balanced (ledger.ended s k ticket result) := by
  obtain ⟨hpassed, hcomputed, hplaced⟩ := hbooks
  cases result with
  | ok a =>
    rw [Ledger.ended, hputs rfl]
    exact ⟨hpassed, hcomputed, hplaced⟩
  | error e =>
    rw [Ledger.ended, hgives]
    exact ⟨hpassed, hcomputed, hplaced⟩

/-- The books balance when a computation has ended. -/
lemma finishes (hbooks : s.Balanced ledger) (hnodup : (s.entries.map Prod.fst).Nodup)
    (hroom : s.size ≤ s.capacity) {ticket : Nat} {result : Except ε α}
    (hfinishes : s.Finishes k ticket result s') :
    s'.Balanced (ledger.ended s k ticket result) := by
  cases hfinishes with
  | nowhere hzero =>
    exact hbooks.released result (fun _ => puts_of_zero hzero) (givesUp_of_zero hzero ticket)
  | leaves hother hplace =>
    exact hbooks.released result (fun hok => puts_of_isSome (hplace hok)) (givesUp_of_other hother)
  | fills hfind =>
    refine ⟨hbooks.passed, hbooks.computed, ?_⟩
    rw [Ledger.ended, puts_of_isSome (by rw [hfind]; rfl), size, ← List.length_map Prod.fst,
      Recency.map_fst_update, List.length_map]
    exact hbooks.placed
  | @returns a hcapacity hfind =>
    have hlength := length_new k ⟨ticket, some a⟩ hcapacity hroom
    refine ⟨?_, ?_, ?_⟩
    · simpa [Ledger.ended] using hbooks.passed
    · simpa [Ledger.ended] using hbooks.computed
    · rw [Ledger.ended, puts_of_none hcapacity hfind, ← hbooks.placed]
      simp only [CacheStats.evictions_evict, size] at hlength ⊢
      omega
  | givesUp hfind hticket =>
    have hlength := (Recency.perm_front hnodup hfind).length_eq
    rw [List.length_cons] at hlength
    -- a cache with a place keeps something
    have hcapacity : s.capacity ≠ 0 := by
      rw [size] at hroom
      omega
    subst hticket
    refine ⟨hbooks.passed, hbooks.computed, ?_⟩
    rw [Ledger.ended, givesUp_of_some hcapacity hfind, ← hbooks.placed]
    simp only [Shared.released, size]
    omega

omit [DecidableEq κ] in
/-- The books balance when the cache has been cleared. -/
lemma clear (hbooks : s.Balanced ledger) :
    s.clear.Balanced { ledger with cleared := ledger.cleared + s.size } := by
  refine ⟨hbooks.passed, hbooks.computed, ?_⟩
  have hplaced := hbooks.placed
  show s.stats.evictions + (ledger.cleared + s.size) + ledger.givenUp + 0 = ledger.placed
  omega

end Balanced

/-! ### From moment to moment -/

namespace Moment

/-- The books of a cache that has room for so many places are in order. -/
structure InOrder (capacity : Nat) (m : Moment κ α ε) : Prop where
  capacity : m.cache.capacity = capacity
  sound : m.cache.Sound m.underWay
  balanced : m.cache.Balanced m.ledger

omit [DecidableEq κ] in
/-- Before the first call the books are in order. -/
lemma inOrder_first (capacity : Nat) (calls : List (Call κ α ε)) :
    (first capacity calls).InOrder capacity where
  capacity := rfl
  sound := sound_of_nil rfl rfl
  balanced := ⟨rfl, rfl, rfl⟩

/-- Whatever happens keeps the books in order. -/
lemma Happens.inOrder {capacity : Nat} {m m' : Moment κ α ε} (hhappens : m.Happens m')
    (h : m.InOrder capacity) : m'.InOrder capacity := by
  obtain ⟨hcapacity, hsound, hbalanced⟩ := h
  cases hhappens with
  | looks => exact ⟨hcapacity, hsound, hbalanced⟩
  | clears => exact ⟨hcapacity, sound_of_nil rfl hsound.held, hbalanced.clear⟩
  | hits _ hstarts =>
    exact ⟨hstarts.capacity_eq.trans hcapacity, hsound.hits hstarts,
      hbalanced.hits hsound.nodup hstarts⟩
  | waits _ hstarts =>
    cases hstarts with
    | waits hfind =>
      exact ⟨hcapacity, hsound.front hfind _, hbalanced.front hsound.nodup hfind⟩
  | computes _ hstarts =>
    exact ⟨hstarts.capacity_eq.trans hcapacity, hsound.computes hstarts ..,
      hbalanced.computes hsound.room hstarts⟩
  | ends hunderWay hfinishes =>
    rw [hunderWay] at hsound
    exact ⟨hfinishes.capacity_eq.trans hcapacity, hsound.finishes hfinishes,
      hbalanced.finishes hsound.nodup hsound.room hfinishes⟩

/-- The books are in order at every moment. -/
lemma inOrder_nth (capacity : Nat) (calls : List (Call κ α ε)) (n : Nat) :
    (nth capacity calls n).InOrder capacity := by
  induction n with
  | zero => exact inOrder_first capacity calls
  | succ n ih =>
    rw [nth_succ]
    exact (happens_next ih.sound.mem_held).inOrder ih

end Moment

/-- When no computation is under way, the keys with a place are those with a value. -/
lemma Sound.contains_iff {s : Shared κ α} (h : s.Sound ([] : List (Computing κ α ε))) (k : κ) :
    s.contains k ↔ k ∈ s.entries.map Prod.fst := by
  rw [← Recency.exists_find?_iff, contains, peek]
  cases hfind : find? k s.entries with
  | none => simp
  | some place =>
    have hvalue : place.value ≠ none := fun hvalue =>
      List.not_mem_nil (h.held ▸ h.mem_held k place hfind hvalue)
    have hheld : place.ticket ∉ s.held := h.held ▸ List.not_mem_nil
    simpa [hheld, Option.isSome_iff_ne_none] using hvalue

/-- **No place is left behind, and the books balance.** Whatever calls are made, whatever calls their
computations make in turn and however these end, at every moment: no more places are kept than there
is room for; each has a value or belongs to a computation under way; when none is under way, the keys
with a place are exactly those with a value; hits and misses together are the calls that got past
their place, misses the computations begun; and the places dropped, cleared and given up, with those
that are left, are all the places ever put into the cache. The last of these moments is the one at
which `runAll` leaves the cache. -/
theorem shared_keeps_books (capacity : Nat) (calls : List (Call κ α ε)) :
    (∀ n, let m := Moment.nth capacity calls n
      m.cache.size ≤ capacity ∧
      (∀ k place, (k, place) ∈ m.cache.entries →
        place.value.isSome ∨ ∃ c ∈ m.underWay, c.key = k ∧ c.ticket = place.ticket) ∧
      (m.underWay = [] → ∀ k, m.cache.contains k ↔ k ∈ m.cache.entries.map Prod.fst) ∧
      m.cache.stats.hits + m.cache.stats.misses = m.ledger.passed ∧
      m.cache.stats.misses = m.ledger.computed ∧
      m.cache.stats.evictions + m.ledger.cleared + m.ledger.givenUp + m.cache.size =
        m.ledger.placed) ∧
    ∃ n, let m := Moment.nth capacity calls n
      m.cache = (runAll (.empty capacity) calls).2 ∧ m.underWay = [] ∧ m.calls = [] := by
  refine ⟨fun n => ?_, ?_⟩
  · obtain ⟨hcapacity, hsound, hbalanced⟩ := Moment.inOrder_nth capacity calls n
    refine ⟨hsound.room.trans_eq hcapacity, fun k place hplace => ?_, fun hnone => ?_,
      hbalanced.passed, hbalanced.computed, hbalanced.placed⟩
    · cases hvalue : place.value with
      | some a => exact .inl rfl
      | none => exact .inr (hsound.owner k place hplace hvalue)
    · rw [hnone] at hsound
      exact hsound.contains_iff
  · obtain ⟨n, ledger, hlast⟩ :=
      Moment.exists_next_runAll calls (.empty capacity) [] Ledger.blank
    exact ⟨n, by rw [Moment.nth, Moment.first, hlast]; exact ⟨rfl, rfl, rfl⟩⟩

end Shared

end TagCatalog
