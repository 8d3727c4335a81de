import Mathlib.Tactic
import TagCatalog.Proofs.Cache.Bookkeeping

/-!
When a key is computed twice at a time.

A call for a key that is being computed finds the place of the key and waits. The place is a place
like any other, though: it can be dropped for lack of room or cleared away while it is held. A call
for the key then finds none, and computes beside the computation that is still under way.

* `Shared.Keeps`: a computation still has its place; `Moment.Drops`: it loses it.
* `Moment.Begins`: a computation begins. `begins_iff`: it does so exactly for a key without a place.
* `Moment.keeps_or_dropped`: places are lost to lack of room and to clearing, and to nothing else.
* `single_flight_while_kept`: no key is computed twice at a time while places are kept; a second
  computation begins exactly if the key has no place, and then every other one has lost its own.
* `second_flight_afterEviction`: with room for one value this happens.
-/

namespace TagCatalog

open Recency (find? remove update)

namespace Shared

variable {κ α ε : Type} [DecidableEq κ]

/-! ### Tickets -/

/-- The computations under way hold different places, all of them older than the next one. -/
structure Numbered (s : Shared κ α) (underWay : List (Computing κ α ε)) : Prop where
  nodup : (underWay.map Computing.ticket).Nodup
  lt_next : ∀ c ∈ underWay, c.ticket < s.nextTicket

/-- A computation has a place in the cache that bears its ticket. -/
def Keeps (s : Shared κ α) (c : Computing κ α ε) : Prop :=
  ∃ place, (c.key, place) ∈ s.entries ∧ place.ticket = c.ticket

section

variable {s s' : Shared κ α} {k : κ} {c : Computing κ α ε}

omit [DecidableEq κ] in
/-- A place is among those for which there is room beside a new one, or it is counted that one had
to go. -/
lemma keeps_new (hkeeps : s.Keeps c) (front : κ × CachePlace α) :
    Keeps { s with entries := front :: s.entries.take (s.capacity - 1) } c ∨
      (s.stats.evict (s.capacity < s.entries.length + 1)).evictions = s.stats.evictions + 1 := by
  by_cases hfull : s.capacity < s.entries.length + 1
  · exact .inr (by simp [hfull])
  · obtain ⟨place, hplace, hticket⟩ := hkeeps
    refine .inl ⟨place, List.mem_cons_of_mem front ?_, hticket⟩
    rwa [List.take_of_length_le (by omega)]

/-- The begin of a call takes a place for lack of room only. -/
lemma Starts.keeps {begun : Start α} (hstarts : s.Starts k (begun, s'))
    (hnodup : (s.entries.map Prod.fst).Nodup) (hkeeps : s.Keeps c) :
    s'.Keeps c ∨ s'.stats.evictions = s.stats.evictions + 1 := by
  cases hstarts with
  | nowhere => exact .inl hkeeps
  | computes => exact keeps_new hkeeps _
  | waits hfind =>
    obtain ⟨place, hplace, hticket⟩ := hkeeps
    exact .inl ⟨place, (Recency.perm_front hnodup hfind).mem_iff.2 hplace, hticket⟩
  | hits hfind =>
    obtain ⟨place, hplace, hticket⟩ := hkeeps
    exact .inl ⟨place, (Recency.perm_front hnodup hfind).mem_iff.2 hplace, hticket⟩

/-- The end of a computation takes the place of another one for lack of room only. -/
lemma Finishes.keeps {ticket : Nat} {result : Except ε α}
    (hfinishes : s.Finishes k ticket result s') (hnodup : (s.entries.map Prod.fst).Nodup)
    (hother : c.ticket ≠ ticket) (hkeeps : s.Keeps c) :
    s'.Keeps c ∨ s'.stats.evictions = s.stats.evictions + 1 := by
  -- the place of the other one belongs to another key
  have hkey {place : CachePlace α} (hfind : find? k s.entries = some place)
      (hticket : place.ticket = ticket) : ∃ place, (c.key, place) ∈ s.entries ∧
        place.ticket = c.ticket ∧ c.key ≠ k := by
    obtain ⟨own, hown, howns⟩ := hkeeps
    refine ⟨own, hown, howns, fun hk => hother ?_⟩
    have hsame := (Recency.find?_of_mem hnodup hown).symm.trans (hk ▸ hfind)
    rw [← howns, Option.some.inj hsame, hticket]
  cases hfinishes with
  | nowhere => exact .inl hkeeps
  | leaves => exact .inl hkeeps
  | returns => exact keeps_new hkeeps _
  | fills hfind hticket =>
    obtain ⟨own, hown, howns, hk⟩ := hkey hfind hticket
    exact .inl ⟨own, List.mem_map.2 ⟨_, hown, if_neg hk⟩, howns⟩
  | givesUp hfind hticket =>
    obtain ⟨own, hown, howns, hk⟩ := hkey hfind hticket
    exact .inl ⟨own, List.mem_filter.2 ⟨hown, decide_eq_true hk⟩, howns⟩

end

namespace Moment

/-- The next thing to happen is that a computation for a key begins. -/
def Begins (m : Moment κ α ε) (k : κ) : Prop :=
  ∃ c, m.next.underWay = c :: m.underWay ∧ c.key = k

/-- The next thing to happen is that a computation loses its place while it is under way: the cache
is cleared, or there is no room for the place. -/
structure Drops (m : Moment κ α ε) (c : Computing κ α ε) : Prop where
  underWay : c ∈ m.underWay ∧ c ∈ m.next.underWay
  keeps : m.cache.Keeps c
  keeps_not : ¬ m.next.cache.Keeps c
  cause : m.calls.head? = some .clear ∨
    m.next.cache.stats.evictions = m.cache.stats.evictions + 1

variable {m m' : Moment κ α ε} {c : Computing κ α ε} {k : κ}

/-- Whatever happens, only new computations have new tickets. -/
lemma Happens.numbered (hhappens : m.Happens m') (h : m.cache.Numbered m.underWay) :
    m'.cache.Numbered m'.underWay := by
  obtain ⟨hnodup, hlt⟩ := h
  cases hhappens with
  | looks => exact ⟨hnodup, hlt⟩
  | clears => exact ⟨hnodup, hlt⟩
  | hits _ hstarts => cases hstarts; exact ⟨hnodup, hlt⟩
  | waits _ hstarts => cases hstarts; exact ⟨hnodup, hlt⟩
  | @computes k _ result later ticket cache _ hstarts =>
    obtain ⟨rfl, hnext⟩ : ticket = m.cache.nextTicket ∧
        cache.nextTicket = m.cache.nextTicket + 1 := by
      cases hstarts <;> exact ⟨rfl, rfl⟩
    refine ⟨List.nodup_cons.2 ⟨fun hmem => ?_, hnodup⟩, fun c hc => hnext ▸ ?_⟩
    · obtain ⟨c, hc, hticket⟩ := List.mem_map.1 hmem
      exact (hlt c hc).ne hticket
    · obtain rfl | hc := List.mem_cons.1 hc
      · exact Nat.lt_succ_self _
      · exact (hlt c hc).trans (Nat.lt_succ_self _)
  | @ends c rest cache hunderWay hfinishes =>
    rw [hunderWay] at hnodup hlt
    have hnext : cache.nextTicket = m.cache.nextTicket := by
      generalize c.result = result at hfinishes
      cases hfinishes <;> rfl
    exact ⟨(List.nodup_cons.1 hnodup).2, fun c' hc' => hnext ▸ hlt c' (List.mem_cons_of_mem c hc')⟩

/-- A computation that has only begun has its place, where places are kept at all. -/
lemma Happens.mem_or_keeps (hhappens : m.Happens m') (hcapacity : m.cache.capacity ≠ 0)
    (hc : c ∈ m'.underWay) : c ∈ m.underWay ∨ m'.cache.Keeps c := by
  cases hhappens with
  | computes _ hstarts =>
    cases hstarts with
    | nowhere hzero => exact absurd hzero hcapacity
    | computes =>
      obtain rfl | hc := List.mem_cons.1 hc
      · exact .inr ⟨_, List.mem_cons_self, rfl⟩
      · exact .inl hc
  | ends hunderWay => exact .inl (hunderWay ▸ List.mem_cons_of_mem _ hc)
  | _ => exact .inl hc

/-- A computation that stays under way loses its place to clearing or to lack of room only. -/
lemma Happens.keeps_or_cause (hhappens : m.Happens m') (hsound : m.cache.Sound m.underWay)
    (hnumbered : m.cache.Numbered m.underWay) (hc : c ∈ m'.underWay) (hkeeps : m.cache.Keeps c) :
    m'.cache.Keeps c ∨ m.calls.head? = some .clear ∨
      m'.cache.stats.evictions = m.cache.stats.evictions + 1 := by
  cases hhappens with
  | looks => exact .inl hkeeps
  | clears hcalls => exact .inr (.inl (by rw [hcalls]; rfl))
  | hits _ hstarts => exact (hstarts.keeps hsound.nodup hkeeps).imp_right .inr
  | waits _ hstarts => exact (hstarts.keeps hsound.nodup hkeeps).imp_right .inr
  | computes _ hstarts => exact (hstarts.keeps hsound.nodup hkeeps).imp_right .inr
  | @ends d rest _ hunderWay hfinishes =>
    -- the computation that ends is another one, with another ticket
    have hnodup := hnumbered.nodup
    rw [hunderWay] at hnodup
    have hother : c.ticket ≠ d.ticket := fun hsame =>
      (List.nodup_cons.1 hnodup).1 (hsame ▸ List.mem_map_of_mem hc)
    exact (hfinishes.keeps hsound.nodup hother hkeeps).imp_right .inr

/-- A computation begins exactly for a key without a place. -/
lemma begins_iff (hsound : m.cache.Sound m.underWay) (hcapacity : m.cache.capacity ≠ 0)
    {inner later : List (Call κ α ε)} {result : Except ε α}
    (hcall : m.calls = .value k inner result :: later) :
    m.Begins k ↔ find? k m.cache.entries = none := by
  have hstarts := starts_start (hsound.mem_held k)
  have hnext : m.next = m.begin k inner result later := by simp only [next, hcall]
  have hsame : ¬ ∃ c, m.underWay = c :: m.underWay ∧ c.key = k := fun ⟨c, hc, _⟩ =>
    List.cons_ne_self c _ hc.symm
  rw [Begins, hnext, begin]
  generalize m.cache.start k = started at hstarts
  cases hstarts with
  | nowhere hzero => exact absurd hzero hcapacity
  | computes _ hfind => exact iff_of_true ⟨_, rfl, rfl⟩ hfind
  | waits hfind => exact iff_of_false hsame (by simp [hfind])
  | hits hfind => exact iff_of_false hsame (by simp [hfind])

section

variable {capacity : Nat} (hcapacity : 0 < capacity) (calls : List (Call κ α ε))

include hcapacity

/-- Room for places does not go away. -/
lemma capacity_nth_ne_zero (n : Nat) : (nth capacity calls n).cache.capacity ≠ 0 :=
  (inOrder_nth capacity calls n).capacity.trans_ne hcapacity.ne'

omit hcapacity in
/-- The computations under way hold different places at every moment. -/
lemma numbered_nth (n : Nat) :
    (nth capacity calls n).cache.Numbered (nth capacity calls n).underWay := by
  induction n with
  | zero => exact ⟨List.nodup_nil, nofun⟩
  | succ n ih =>
    rw [nth_succ]
    exact (happens_next (inOrder_nth capacity calls n).sound.mem_held).numbered ih

/-- A computation under way has its place, or has lost it. -/
lemma keeps_or_dropped (n : Nat) (hc : c ∈ (nth capacity calls n).underWay) :
    (nth capacity calls n).cache.Keeps c ∨
      ∃ i < n, (nth capacity calls i).Drops c := by
  induction n with
  | zero => cases hc
  | succ n ih =>
    have hsound := (inOrder_nth capacity calls n).sound
    have hhappens := happens_next hsound.mem_held
    rw [nth_succ] at hc ⊢
    obtain hbefore | hnew :=
      hhappens.mem_or_keeps (capacity_nth_ne_zero hcapacity calls n) hc
    · obtain hkeeps | ⟨i, hi, hdrops⟩ := ih hbefore
      · by_cases hlater : (nth capacity calls n).next.cache.Keeps c
        · exact .inl hlater
        · have hcause :=
            hhappens.keeps_or_cause hsound (numbered_nth calls n) hc hkeeps
          exact .inr ⟨n, Nat.lt_succ_self n, ⟨⟨hbefore, hc⟩, hkeeps, hlater,
            hcause.resolve_left hlater⟩⟩
      · exact .inr ⟨i, hi.trans (Nat.lt_succ_self n), hdrops⟩
    · exact .inl hnew

/-- Where a key has no place, each computation for it has lost its own. -/
lemma dropped_of_placeless (n : Nat) (hc : c ∈ (nth capacity calls n).underWay)
    (hfind : find? c.key (nth capacity calls n).cache.entries = none) :
    ∃ i < n, (nth capacity calls i).Drops c := by
  refine (keeps_or_dropped hcapacity calls n hc).resolve_left fun ⟨place, hplace, _⟩ => ?_
  exact Recency.find?_eq_none_iff.1 hfind (List.mem_map_of_mem hplace)

/-- As long as no computation loses its place, no key is computed twice at a time. -/
lemma nodup_underWay_of_keeps (n : Nat)
    (hkeeps : ∀ i < n, ∀ c, ¬ (nth capacity calls i).Drops c) :
    ((nth capacity calls n).underWay.map Computing.key).Nodup := by
  induction n with
  | zero => exact List.nodup_nil
  | succ n ih =>
    have hnodup := ih fun i hi => hkeeps i (hi.trans (Nat.lt_succ_self n))
    have hhappens := happens_next (inOrder_nth capacity calls n).sound.mem_held
    have hplaceless (c : Computing κ α ε) := dropped_of_placeless (c := c) hcapacity calls n
    rw [nth_succ]
    generalize (nth capacity calls n).next = m' at hhappens
    cases hhappens with
    | @computes k _ _ _ _ _ _ hstarts =>
      refine List.nodup_cons.2 ⟨fun hmem => ?_, hnodup⟩
      obtain ⟨c, hc, rfl⟩ := List.mem_map.1 hmem
      cases hstarts with
      | nowhere hzero => exact capacity_nth_ne_zero hcapacity calls n hzero
      | computes _ hfind =>
        obtain ⟨i, hi, hdrops⟩ := hplaceless c hc hfind
        exact hkeeps i (hi.trans (Nat.lt_succ_self n)) c hdrops
    | ends hunderWay =>
      rw [hunderWay] at hnodup
      exact (List.nodup_cons.1 hnodup).2
    | _ => exact hnodup

end

end Moment

/-- **A key is computed once at a time while its place is kept.** In a cache that keeps anything at
all, however calls are nested: as long as no computation under way loses its place to clearing or to
lack of room, no key is computed twice at a time. A call for a key computes exactly if the key has no
place; where the key is being computed already, this is so only after every computation for it has
lost its place. -/
theorem single_flight_while_kept {capacity : Nat} (hcapacity : 0 < capacity)
    (calls : List (Call κ α ε)) (n : Nat) :
    let moment := Moment.nth capacity calls
    ((∀ i < n, ∀ c, ¬ (moment i).Drops c) → ((moment n).underWay.map Computing.key).Nodup) ∧
    ∀ k inner result later, (moment n).calls = .value k inner result :: later →
      ((moment n).Begins k ↔ find? k (moment n).cache.entries = none) ∧
      ((moment n).Begins k → ∀ c ∈ (moment n).underWay, c.key = k → ∃ i < n, (moment i).Drops c) := by
  refine ⟨Moment.nodup_underWay_of_keeps hcapacity calls n, fun k inner result later hcall => ?_⟩
  have hbegins := Moment.begins_iff (Moment.inOrder_nth capacity calls n).sound
    (Moment.capacity_nth_ne_zero hcapacity calls n) hcall
  refine ⟨hbegins, fun hbegun c hc hkey => ?_⟩
  exact Moment.dropped_of_placeless hcapacity calls n hc (hkey ▸ hbegins.1 hbegun)

/-- The value of one key is computed; meanwhile that of another is, and then the first is called for
again. -/
def calledForAgain : List (Call Nat Nat Unit) :=
  [.value 1 [.value 2 [] (.ok 20), .value 1 [] (.ok 11)] (.ok 10)]

/-- With room for one value the second key takes the place of the first, whose computation is under
way when the call for it comes. -/
theorem single_flight_while_kept_roomForOne :
    let moment := Moment.nth 1 calledForAgain
    0 < 1 ∧ (moment 3).calls = [.value 1 [] (.ok 11)] ∧ (moment 3).Begins 1 ∧
    ∃ i < 3, (moment i).Drops ⟨1, 0, .ok 10, []⟩ := by
  intro moment
  have hcall : (moment 3).calls = [.value 1 [] (.ok 11)] := rfl
  obtain ⟨hbegins, hdrops⟩ :=
    (single_flight_while_kept Nat.one_pos calledForAgain 3).2 1 [] (.ok 11) [] hcall
  have hbegun : (moment 3).Begins 1 := hbegins.2 (by decide)
  exact ⟨Nat.one_pos, hcall, hbegun, hdrops hbegun _ List.mem_cons_self rfl⟩

/-- The key is then computed twice at a time. -/
theorem second_flight_afterEviction :
    ¬ ∀ capacity (calls : List (Call Nat Nat Unit)) n, 1 ≤ capacity →
      ((Moment.nth capacity calls n).underWay.map Computing.key).Nodup := fun h =>
  absurd (h 1 calledForAgain 4 le_rfl) (by decide)

end Shared

end TagCatalog
