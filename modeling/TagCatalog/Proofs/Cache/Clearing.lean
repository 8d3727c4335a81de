import Mathlib.Tactic
import TagCatalog.Proofs.Cache.SingleFlight

/-!
What comes back after the cache was cleared.

Clearing drops the places of computations under way along with all others. A computation that ends
well puts its value back if its key has no place by then, whatever became of the place; so a value
whose computation began before the cache was cleared can be kept afterwards.

Every place bears the ticket of one computation, and tickets are given out in the order in which
computations begin. So the ticket of a place tells when the computation of its value began.

* `Moment.Opens`, `Moment.Closes`: a computation begins or ends at a moment; `Lasts` is both.
* `Moment.Happens.mem_entries`: all that can bring a place into the cache.
* `Moment.exists_lasts`: each value in the cache is that of a computation that has ended well.
* `Moment.Opens.keeps_of_keeps_later`: a lost place comes back at the end of its computation only.
* `stays_cleared_iff`: which values come back, and for which keys none does.
* `cleared_value_returns`: a value does come back.
-/

namespace TagCatalog

open Recency (find?)

namespace Shared

variable {κ α ε : Type} [DecidableEq κ]

namespace Moment

/-! ### Begins and ends -/

/-- The next thing to happen is that a computation begins. -/
def Opens (m : Moment κ α ε) (c : Computing κ α ε) : Prop := m.next.underWay = c :: m.underWay

/-- The next thing to happen is that a computation ends. -/
def Closes (m : Moment κ α ε) (c : Computing κ α ε) : Prop := m.underWay = c :: m.next.underWay

section

variable {m m' : Moment κ α ε} {c d : Computing κ α ε} {k : κ}

/-- One computation ends at a time. -/
lemma Closes.eq (h : m.Closes c) (h' : m.Closes d) : d = c :=
  (List.cons.inj (h'.symm.trans h)).1

/-- When the cache is cleared no computation begins or ends. -/
lemma not_opens_not_closes_of_clear (hclear : m.calls.head? = some .clear) :
    ¬ m.Opens c ∧ ¬ m.Closes c := by
  obtain ⟨later, hcalls⟩ := List.head?_eq_some_iff.1 hclear
  have hsame : m.next.underWay = m.underWay := by simp only [next, hcalls]
  rw [Opens, Closes, hsame]
  exact ⟨(List.cons_ne_self c _).symm, (List.cons_ne_self c _).symm⟩

/-- When the cache is cleared nothing is left in it. -/
lemma entries_of_clear (hclear : m.calls.head? = some .clear) : m.next.cache.entries = [] := by
  obtain ⟨later, hcalls⟩ := List.head?_eq_some_iff.1 hclear
  simp only [next, hcalls]
  rfl

/-- Whatever happens, the next ticket does not go down, and it goes up when a computation begins,
which takes it. -/
lemma Happens.nextTicket (hhappens : m.Happens m') :
    m.cache.nextTicket ≤ m'.cache.nextTicket ∧
    ∀ c, m'.underWay = c :: m.underWay →
      c.ticket = m.cache.nextTicket ∧ m'.cache.nextTicket = m.cache.nextTicket + 1 := by
  have hsame {c : Computing κ α ε} {P : Prop} (h : m.underWay = c :: m.underWay) : P :=
    absurd h.symm (List.cons_ne_self c _)
  cases hhappens with
  | looks => exact ⟨le_rfl, fun c hc => hsame hc⟩
  | clears => exact ⟨le_rfl, fun c hc => hsame hc⟩
  | hits _ hstarts => cases hstarts; exact ⟨le_rfl, fun c hc => hsame hc⟩
  | waits _ hstarts => cases hstarts; exact ⟨le_rfl, fun c hc => hsame hc⟩
  | computes _ hstarts =>
    cases hstarts <;>
      exact ⟨Nat.le_succ _, fun c hc => ⟨(List.cons.inj hc).1 ▸ rfl, rfl⟩⟩
  | @ends d rest cache hunderWay hfinishes =>
    have hnext : cache.nextTicket = m.cache.nextTicket := by
      generalize d.result = result at hfinishes
      cases hfinishes <;> rfl
    refine ⟨hnext.ge, fun c hc => ?_⟩
    have hlength := congrArg List.length (hunderWay ▸ hc : rest = c :: d :: rest)
    simp only [List.length_cons] at hlength
    omega

/-- Whatever happens, a computation under way afterwards was so before or has just begun. -/
lemma Happens.mem_or_opens (hhappens : m.Happens m') (hc : c ∈ m'.underWay) :
    c ∈ m.underWay ∨ m'.underWay = c :: m.underWay := by
  cases hhappens with
  | computes =>
    obtain rfl | hc := List.mem_cons.1 hc
    · exact .inr rfl
    · exact .inl hc
  | ends hunderWay => exact .inl (hunderWay ▸ List.mem_cons_of_mem _ hc)
  | _ => exact .inl hc

/-- All that can bring a place into the cache: it was there, or a computation has begun, or one has
ended well that kept its place or whose key had none. -/
lemma Happens.mem_entries (hhappens : m.Happens m') (hsound : m.cache.Sound m.underWay)
    {place : CachePlace α} (hplace : (k, place) ∈ m'.cache.entries) :
    (k, place) ∈ m.cache.entries ∨
    (place.ticket = m.cache.nextTicket ∧ place.value = none) ∨
    ∃ d a, m.underWay = d :: m'.underWay ∧ d.key = k ∧ d.result = .ok a ∧
      place = ⟨d.ticket, some a⟩ ∧ (m.cache.Keeps d ∨ find? k m.cache.entries = none) := by
  cases hhappens with
  | looks => exact .inl hplace
  | clears => cases hplace
  | hits _ hstarts =>
    cases hstarts with
    | hits hfind => exact .inl ((Recency.perm_front hsound.nodup hfind).mem_iff.1 hplace)
  | waits _ hstarts =>
    cases hstarts with
    | waits hfind => exact .inl ((Recency.perm_front hsound.nodup hfind).mem_iff.1 hplace)
  | computes _ hstarts =>
    cases hstarts with
    | nowhere => exact .inl hplace
    | computes =>
      obtain hnew | hold := List.mem_cons.1 hplace
      · cases hnew
        exact .inr (.inl ⟨rfl, rfl⟩)
      · exact .inl (List.mem_of_mem_take hold)
  | @ends d rest cache hunderWay hfinishes =>
    generalize hresult : d.result = result at hfinishes
    cases hfinishes with
    | nowhere => exact .inl hplace
    | leaves => exact .inl hplace
    | givesUp => exact .inl (List.mem_of_mem_filter hplace)
    | @fills a own hfind hticket =>
      obtain hfilled | ⟨hold, -⟩ := Recency.mem_update hplace
      · cases hfilled
        exact .inr (.inr ⟨d, a, hunderWay, rfl, hresult, rfl,
          .inl ⟨own, Recency.mem_of_find? hfind, hticket⟩⟩)
      · exact .inl hold
    | @returns a _ hfind =>
      obtain hback | hold := List.mem_cons.1 hplace
      · cases hback
        exact .inr (.inr ⟨d, a, hunderWay, rfl, hresult, rfl, .inr hfind⟩)
      · exact .inl (List.mem_of_mem_take hold)

/-- What a computation has computed is kept where its key had no place when it ended. -/
lemma Happens.find?_of_returns (hhappens : m.Happens m') (hcloses : m.underWay = c :: m'.underWay)
    (hcapacity : m.cache.capacity ≠ 0) {a : α} (hresult : c.result = .ok a)
    (hfind : find? c.key m.cache.entries = none) :
    find? c.key m'.cache.entries = some ⟨c.ticket, some a⟩ := by
  cases hhappens with
  | @ends d rest cache hunderWay hfinishes =>
    obtain ⟨rfl, -⟩ := List.cons.inj (hcloses.symm.trans hunderWay)
    rw [hresult] at hfinishes
    cases hfinishes with
    | nowhere hzero => exact absurd hzero hcapacity
    | fills hplace => exact absurd (hfind.symm.trans hplace) (by simp)
    | returns => rw [find?, if_pos rfl]
    | leaves _ hplace =>
      have := hplace rfl
      rw [hfind] at this
      cases this
  | computes =>
    have hlength := congrArg List.length hcloses
    simp only [List.length_cons] at hlength
    omega
  | _ => exact absurd hcloses.symm (List.cons_ne_self c _)

end

/-! ### Tickets in the order of begins -/

section

variable {capacity : Nat} {calls : List (Call κ α ε)} {b b' e e' i j n : Nat}
  {c c' d : Computing κ α ε} {k : κ} {a : α}

/-- What happens at a moment of some calls. -/
lemma happens_nth (capacity : Nat) (calls : List (Call κ α ε)) (n : Nat) :
    (nth capacity calls n).Happens (nth capacity calls n).next :=
  happens_next (inOrder_nth capacity calls n).sound.mem_held

/-- The next ticket never goes down. -/
lemma nextTicket_mono (capacity : Nat) (calls : List (Call κ α ε)) (h : i ≤ j) :
    (nth capacity calls i).cache.nextTicket ≤ (nth capacity calls j).cache.nextTicket := by
  induction j, h using Nat.le_induction with
  | base => exact le_rfl
  | succ j _ ih =>
    rw [nth_succ]
    exact ih.trans (happens_nth capacity calls j).nextTicket.1

/-- A ticket is older than the next one of a moment exactly if its computation began before. -/
lemma Opens.ticket_lt_iff (h : (nth capacity calls b).Opens c) :
    c.ticket < (nth capacity calls i).cache.nextTicket ↔ b < i := by
  obtain ⟨hticket, hnext⟩ := (happens_nth capacity calls b).nextTicket.2 c h
  rw [hticket]
  refine ⟨fun hlt => ?_, fun hlt => ?_⟩
  · by_contra hle
    exact hlt.not_ge (nextTicket_mono capacity calls (not_lt.1 hle))
  · have hmono := nextTicket_mono capacity calls (Nat.succ_le_of_lt hlt)
    rw [Nat.succ_eq_add_one, nth_succ, hnext] at hmono
    exact hmono

/-- A ticket is given out once. -/
lemma Opens.eq_of_ticket_eq (h : (nth capacity calls b).Opens c)
    (h' : (nth capacity calls b').Opens c') (hticket : c.ticket = c'.ticket) : b = b' ∧ c = c' := by
  have hb : ¬ b < b' := fun hlt => by
    have := h.ticket_lt_iff.2 hlt
    rw [hticket, h'.ticket_lt_iff] at this
    exact lt_irrefl _ this
  have hb' : ¬ b' < b := fun hlt => by
    have := h'.ticket_lt_iff.2 hlt
    rw [← hticket, h.ticket_lt_iff] at this
    exact lt_irrefl _ this
  obtain rfl : b = b' := by omega
  exact ⟨rfl, (List.cons.inj (h.symm.trans h')).1⟩

/-- A computation under way has begun. -/
lemma exists_opens (hc : c ∈ (nth capacity calls n).underWay) :
    ∃ b < n, (nth capacity calls b).Opens c := by
  induction n with
  | zero => cases hc
  | succ n ih =>
    rw [nth_succ] at hc
    obtain hbefore | hnew := (happens_nth capacity calls n).mem_or_opens hc
    · obtain ⟨b, hb, hopens⟩ := ih hbefore
      exact ⟨b, hb.trans (Nat.lt_succ_self n), hopens⟩
    · exact ⟨n, Nat.lt_succ_self n, hnew⟩

/-- The ticket of a computation that ends is not under way afterwards. -/
lemma Closes.ticket_notMem (h : (nth capacity calls e).Closes c) :
    c.ticket ∉ (nth capacity calls (e + 1)).underWay.map Computing.ticket := by
  have hnumbered : (nth capacity calls e).cache.Numbered (nth capacity calls e).underWay :=
    numbered_nth calls e
  have hnodup := hnumbered.nodup
  rw [h] at hnodup
  rw [nth_succ]
  exact (List.nodup_cons.1 hnodup).1

/-- A computation begins at one moment and ends at another. -/
structure Lasts (capacity : Nat) (calls : List (Call κ α ε)) (c : Computing κ α ε) (b e : Nat) :
    Prop where
  opens : (nth capacity calls b).Opens c
  closes : (nth capacity calls e).Closes c

namespace Lasts

variable (h : Lasts capacity calls c b e)

include h

/-- A computation begins before it ends. -/
lemma lt : b < e := by
  have hmem : c ∈ (nth capacity calls e).underWay := h.closes ▸ List.mem_cons_self
  obtain ⟨b', hb', hopens⟩ := exists_opens hmem
  rwa [(h.opens.eq_of_ticket_eq hopens rfl).1]

/-- A computation that has ended is not under way any more. -/
lemma not_mem_underWay (hj : e < j) : c ∉ (nth capacity calls j).underWay := by
  induction j, hj using Nat.le_induction with
  | base => exact fun hmem => h.closes.ticket_notMem (List.mem_map_of_mem hmem)
  | succ j hj ih =>
    intro hmem
    rw [nth_succ] at hmem
    obtain hbefore | hnew := (happens_nth capacity calls j).mem_or_opens hmem
    · exact ih hbefore
    · -- it would have begun a second time
      have hagain : (nth capacity calls j).Opens c := hnew
      have hb := (h.opens.eq_of_ticket_eq hagain rfl).1
      have := h.lt
      omega

/-- A computation ends once. -/
lemma eq_of_closes (hj : (nth capacity calls j).Closes c) : j = e := by
  have hlate {i j : Nat} (hi : (nth capacity calls i).Closes c)
      (hj : (nth capacity calls j).Closes c) : ¬ i < j := fun hij =>
    Lasts.not_mem_underWay ⟨h.opens, hi⟩ hij (hj ▸ List.mem_cons_self)
  exact le_antisymm (not_lt.1 (hlate h.closes hj)) (not_lt.1 (hlate hj h.closes))

end Lasts

/-- A computation that ends has begun. -/
lemma Closes.exists_lasts (h : (nth capacity calls e).Closes c) :
    ∃ b, Lasts capacity calls c b e := by
  have hmem : c ∈ (nth capacity calls e).underWay := h ▸ List.mem_cons_self
  obtain ⟨b, -, hopens⟩ := exists_opens hmem
  exact ⟨b, hopens, h⟩

/-- Each value in the cache is that of a computation that has ended well, whose ticket its place
bears. -/
lemma exists_lasts {place : CachePlace α}
    (hplace : (k, place) ∈ (nth capacity calls n).cache.entries) (hvalue : place.value = some a) :
    ∃ c b e, Lasts capacity calls c b e ∧ e < n ∧ c.key = k ∧ c.result = .ok a ∧
      place.ticket = c.ticket := by
  induction n with
  | zero => cases hplace
  | succ n ih =>
    rw [nth_succ] at hplace
    obtain hold | ⟨-, hnone⟩ | ⟨c, b, hcloses, hkey, hresult, rfl, -⟩ :=
      (happens_nth capacity calls n).mem_entries (inOrder_nth capacity calls n).sound hplace
    · obtain ⟨c, b, e, hlasts, he, hc⟩ := ih hold
      exact ⟨c, b, e, hlasts, he.trans (Nat.lt_succ_self n), hc⟩
    · rw [hnone] at hvalue
      cases hvalue
    · cases hvalue
      obtain ⟨b, hlasts⟩ := Closes.exists_lasts hcloses
      exact ⟨c, b, n, hlasts, Nat.lt_succ_self n, hkey, hresult, rfl⟩

/-! ### Places that are lost -/

/-- A computation that has begun and does not end at a moment has its place afterwards only if it
had it before. -/
lemma Opens.keeps_of_keeps_succ (h : (nth capacity calls b).Opens c) (hj : b < j)
    (hends : ¬ (nth capacity calls j).Closes c)
    (hkeeps : (nth capacity calls (j + 1)).cache.Keeps c) :
    (nth capacity calls j).cache.Keeps c := by
  obtain ⟨place, hplace, hticket⟩ := hkeeps
  rw [nth_succ] at hplace
  obtain hold | ⟨hnew, -⟩ | ⟨d, _, hcloses, -, -, rfl, -⟩ :=
    (happens_nth capacity calls j).mem_entries (inOrder_nth capacity calls j).sound hplace
  · exact ⟨place, hold, hticket⟩
  · have hlt := h.ticket_lt_iff.2 hj
    omega
  · obtain ⟨b', hlasts⟩ := Closes.exists_lasts hcloses
    obtain ⟨-, rfl⟩ := h.eq_of_ticket_eq hlasts.opens hticket.symm
    exact absurd hcloses hends

/-- A place that is there was there at any moment since its computation began, if the computation
did not end in between. -/
lemma Opens.keeps_of_keeps_later (h : (nth capacity calls b).Opens c) (hi : b < i) (hn : i ≤ n)
    (hends : ∀ j, i ≤ j → j < n → ¬ (nth capacity calls j).Closes c)
    (hkeeps : (nth capacity calls n).cache.Keeps c) : (nth capacity calls i).cache.Keeps c := by
  induction n, hn using Nat.le_induction with
  | base => exact hkeeps
  | succ n hn ih =>
    refine ih (fun j hij hj => hends j hij (hj.trans (Nat.lt_succ_self n))) ?_
    exact h.keeps_of_keeps_succ (hi.trans_le hn) (hends n hn (Nat.lt_succ_self n)) hkeeps

namespace Lasts

variable (h : Lasts capacity calls c b e)

include h

/-- A computation that had begun when the cache was cleared has no place from then on until it ends,
and none at all if it had ended. -/
lemma not_keeps_of_clear (hclear : (nth capacity calls i).calls.head? = some .clear) (hb : b < i)
    (hj : i < j) (he : j ≤ e ∨ e < i) : ¬ (nth capacity calls j).cache.Keeps c := by
  intro hkeeps
  obtain ⟨place, hplace, -⟩ : (nth capacity calls (i + 1)).cache.Keeps c := by
    refine h.opens.keeps_of_keeps_later (hb.trans (Nat.lt_succ_self i)) hj ?_ hkeeps
    intro j' hi hj' hcloses
    have := h.eq_of_closes hcloses
    omega
  rw [nth_succ, entries_of_clear hclear] at hplace
  cases hplace

/-- Where a computation has its place only after its end, its key had none. -/
lemma find?_eq_none_of_keeps_succ (hlost : ¬ (nth capacity calls e).cache.Keeps c)
    (hkeeps : (nth capacity calls (e + 1)).cache.Keeps c) :
    find? c.key (nth capacity calls e).cache.entries = none := by
  obtain ⟨place, hplace, hticket⟩ := hkeeps
  rw [nth_succ] at hplace
  obtain hold | ⟨hnew, -⟩ | ⟨d, _, hcloses, -, -, -, hown⟩ :=
    (happens_nth capacity calls e).mem_entries (inOrder_nth capacity calls e).sound hplace
  · exact absurd ⟨place, hold, hticket⟩ hlost
  · have hlt := h.opens.ticket_lt_iff.2 h.lt
    omega
  · rw [h.closes.eq hcloses] at hown
    exact hown.resolve_left hlost

end Lasts

end

/-! ### Values that come back -/

section

variable (capacity : Nat) (calls : List (Call κ α ε))

/-- At a moment, a look at the cache reports the value of a computation that has ended. -/
structure Reports (n : Nat) (c : Computing κ α ε) (b e : Nat) (a : α) : Prop where
  lasts : Lasts capacity calls c b e
  lt : e < n
  result : c.result = .ok a
  place : find? c.key (nth capacity calls n).cache.entries = some ⟨c.ticket, some a⟩
  peek : (nth capacity calls n).cache.peek c.key = some a

/-- At moment `n`, a look at the cache reports a value of a key whose computation began before
moment `i`. -/
def Returned (i n : Nat) (k : κ) : Prop :=
  ∃ c b e a, Reports capacity calls n c b e a ∧ c.key = k ∧ b < i

/-- A computation for a key that began after moment `i` has ended well before moment `n`. -/
def Renewed (i n : Nat) (k : κ) : Prop :=
  ∃ c b e a, Lasts capacity calls c b e ∧ c.key = k ∧ c.result = .ok a ∧ i < b ∧ e < n

variable {capacity calls} {b e i j n : Nat} {c : Computing κ α ε} {k : κ} {a : α}

lemma Renewed.mono (h : Renewed capacity calls i j k) (hj : j ≤ n) :
    Renewed capacity calls i n k := by
  obtain ⟨c, b, e, a, hlasts, hkey, hresult, hb, he⟩ := h
  exact ⟨c, b, e, a, hlasts, hkey, hresult, hb, he.trans_le hj⟩

/-- A value that is reported is that of a computation that has ended. -/
lemma exists_reports (hpeek : (nth capacity calls n).cache.peek k = some a) :
    ∃ c b e, Reports capacity calls n c b e a ∧ c.key = k := by
  obtain ⟨place, hfind, hvalue⟩ := Option.bind_eq_some_iff.1 hpeek
  obtain ⟨-, hvalue⟩ := Option.ite_none_left_eq_some.1 hvalue
  obtain ⟨c, b, e, hlasts, he, rfl, hresult, hticket⟩ :=
    exists_lasts (Recency.mem_of_find? hfind) hvalue
  have hplace : place = ⟨c.ticket, some a⟩ := by rw [← hticket, ← hvalue]
  exact ⟨c, b, e, ⟨hlasts, he, hresult, hplace ▸ hfind, hpeek⟩, rfl⟩

/-- The place of a value that is reported. -/
lemma Reports.keeps (h : Reports capacity calls n c b e a) :
    (nth capacity calls n).cache.Keeps c := ⟨_, Recency.mem_of_find? h.place, rfl⟩

/-- A value that is reported is that of one computation. -/
lemma Reports.eq {b' e' : Nat} {c' : Computing κ α ε} {a' : α}
    (h : Reports capacity calls n c b e a) (h' : Reports capacity calls n c' b' e' a')
    (hkey : c'.key = c.key) : (c', b', e') = (c, b, e) := by
  have hplace := h'.place.symm.trans (hkey ▸ h.place)
  have hticket : c'.ticket = c.ticket := congrArg CachePlace.ticket (Option.some.inj hplace)
  obtain ⟨rfl, rfl⟩ := h'.lasts.opens.eq_of_ticket_eq h.lasts.opens hticket
  rw [h.lasts.eq_of_closes h'.lasts.closes]

/-- Where anything is reported, something is kept at all. -/
lemma Reports.capacity_ne_zero (h : Reports capacity calls n c b e a) : capacity ≠ 0 := by
  rintro rfl
  obtain ⟨hcapacity, hsound, -⟩ := inOrder_nth 0 calls n
  have hplace := h.place
  rw [hsound.entries_eq_nil hcapacity] at hplace
  cases hplace

/-- A value that is reported after the cache was cleared is that of a computation that began
afterwards, or it came back when its key had no place. -/
lemma Reports.of_clear (h : Reports capacity calls n c b e a)
    (hclear : (nth capacity calls i).calls.head? = some .clear) (hi : i < n) :
    i < b ∨ b < i ∧ i < e ∧ find? c.key (nth capacity calls e).cache.entries = none := by
  obtain ⟨hopens, hcloses⟩ := not_opens_not_closes_of_clear (c := c) hclear
  have hb : b ≠ i := fun hbi => hopens (hbi ▸ h.lasts.opens)
  have he : e ≠ i := fun hei => hcloses (hei ▸ h.lasts.closes)
  obtain hb | hb := hb.symm.lt_or_gt
  · exact .inl hb
  have hlost {j : Nat} := h.lasts.not_keeps_of_clear (j := j) hclear hb
  have hlate : i < e := by
    by_contra hle
    exact hlost hi (.inr (by omega)) h.keeps
  have hback : (nth capacity calls (e + 1)).cache.Keeps c := by
    have hbegun : b < e + 1 := h.lasts.lt.trans (Nat.lt_succ_self e)
    refine h.lasts.opens.keeps_of_keeps_later hbegun h.lt ?_ h.keeps
    exact fun j hj _ hcloses => (Nat.lt_of_succ_le hj).ne' (h.lasts.eq_of_closes hcloses)
  exact .inr ⟨hb, hlate, h.lasts.find?_eq_none_of_keeps_succ (hlost hlate (.inl le_rfl)) hback⟩

/-- A computation that ends well when its key has no place brings its value back. -/
lemma Lasts.reports (h : Lasts capacity calls c b e) (hcapacity : capacity ≠ 0)
    (hresult : c.result = .ok a)
    (hfind : find? c.key (nth capacity calls e).cache.entries = none) :
    Reports capacity calls (e + 1) c b e a := by
  have hinOrder := inOrder_nth capacity calls e
  have hafter := (inOrder_nth capacity calls (e + 1)).sound
  have hplace : find? c.key (nth capacity calls (e + 1)).cache.entries =
      some ⟨c.ticket, some a⟩ := by
    rw [nth_succ]
    exact (happens_nth capacity calls e).find?_of_returns h.closes
      (hinOrder.capacity.trans_ne hcapacity) hresult hfind
  have hheld : c.ticket ∉ (nth capacity calls (e + 1)).cache.held :=
    hafter.held ▸ h.closes.ticket_notMem
  refine ⟨h, Nat.lt_succ_self e, hresult, hplace, ?_⟩
  rw [peek, hplace]
  exact if_neg hheld

/-- After the cache was cleared, the values of a key whose computations began before stay out of it,
until a computation for the key that began afterwards has ended well. -/
def StaysCleared (capacity : Nat) (calls : List (Call κ α ε)) (i : Nat) (k : κ) : Prop :=
  ∀ n > i, ¬ Renewed capacity calls i n k → ¬ Returned capacity calls i n k

end

end Moment

/-- **What comes back after the cache was cleared.** However calls are nested: when the cache has
been cleared, any value reported later is that of exactly one computation, which began after the
cache was cleared, or was under way then, ended well later, and found that its key had no place. So
the values of a key stay out of the cache, until a computation for it that began afterwards has
ended well, exactly if, of the computations for the key that were under way, each that ends well
before such a one finds a place of its key, where any are kept at all. -/
theorem stays_cleared_iff (capacity : Nat) (calls : List (Call κ α ε)) {i : Nat}
    (hclear : (Moment.nth capacity calls i).calls.head? = some .clear) (k : κ) :
    (∀ n > i, ∀ a, (Moment.nth capacity calls n).cache.peek k = some a →
      ∃ c b e, Moment.Reports capacity calls n c b e a ∧ c.key = k ∧
        (i < b ∨ b < i ∧ i < e ∧ find? k (Moment.nth capacity calls e).cache.entries = none) ∧
        ∀ c' b' e' a', Moment.Reports capacity calls n c' b' e' a' → c'.key = k →
          (c', b', e') = (c, b, e)) ∧
    (Moment.StaysCleared capacity calls i k ↔
      ∀ c b e a, Moment.Lasts capacity calls c b e → c.key = k → c.result = .ok a → b < i → i < e →
        ¬ Moment.Renewed capacity calls i e k →
        capacity = 0 ∨ (find? k (Moment.nth capacity calls e).cache.entries).isSome) := by
  refine ⟨fun n hn a hpeek => ?_, fun hstays c b e a hlasts hkey hresult hb he hrenewed => ?_,
    fun hplaces n hn hrenewed hreturned => ?_⟩
  · obtain ⟨c, b, e, hreports, rfl⟩ := Moment.exists_reports hpeek
    exact ⟨c, b, e, hreports, rfl, hreports.of_clear hclear hn,
      fun _ _ _ _ hreports' hkey => hreports.eq hreports' hkey⟩
  · -- the value would be back as soon as the computation has ended
    by_contra hnone
    obtain ⟨hcapacity, hfind⟩ := not_or.1 hnone
    have hreports := hlasts.reports hcapacity hresult (by simpa [hkey] using hfind)
    refine hstays (e + 1) (by omega) ?_ ⟨c, b, e, a, hreports, hkey, hb⟩
    rintro ⟨d, b', e', a', hlasts', hkey', hresult', hb', he'⟩
    obtain hlt | rfl := Nat.lt_succ_iff_lt_or_eq.1 he'
    · exact hrenewed ⟨d, b', e', a', hlasts', hkey', hresult', hb', hlt⟩
    · obtain rfl := hlasts.closes.eq hlasts'.closes
      obtain ⟨rfl, -⟩ := hlasts.opens.eq_of_ticket_eq hlasts'.opens rfl
      omega
  · obtain ⟨c, b, e, a, hreports, rfl, hb⟩ := hreturned
    obtain hlate | ⟨-, he, hfind⟩ := hreports.of_clear hclear hn
    · omega
    · obtain hzero | hsome := hplaces c b e a hreports.lasts rfl hreports.result hb he
        fun hrenewed' => hrenewed (hrenewed'.mono hreports.lt.le)
      · exact hreports.capacity_ne_zero hzero
      · rw [hfind] at hsome
        cases hsome

/-- The cache is cleared while the value of a key is computed. -/
def clearedMeanwhile : List (Call Nat Nat Unit) := [.value 1 [.clear] (.ok 10)]

/-- The value whose computation was under way is there when the computation has ended. -/
theorem stays_cleared_iff_whileComputing :
    let moment := Moment.nth 2 clearedMeanwhile
    (moment 1).calls.head? = some .clear ∧ (moment 2).cache.entries = [] ∧
    (moment 3).cache.peek 1 = some 10 ∧
    ∃ c b e, Moment.Reports 2 clearedMeanwhile 3 c b e 10 ∧ c.key = 1 ∧
      (1 < b ∨ b < 1 ∧ 1 < e ∧ find? 1 (moment e).cache.entries = none) ∧
      ∀ c' b' e' a', Moment.Reports 2 clearedMeanwhile 3 c' b' e' a' → c'.key = 1 →
        (c', b', e') = (c, b, e) := by
  intro moment
  have hclear : (moment 1).calls.head? = some .clear := rfl
  have hpeek : (moment 3).cache.peek 1 = some 10 := rfl
  exact ⟨hclear, rfl, hpeek,
    (stays_cleared_iff 2 clearedMeanwhile hclear 1).1 3 (by decide) 10 hpeek⟩

/-- So a value comes back although the cache was cleared while it was computed and nothing has been
computed since. -/
theorem cleared_value_returns :
    ¬ ∀ capacity (calls : List (Call Nat Nat Unit)) i k,
      (Moment.nth capacity calls i).calls.head? = some .clear →
      Moment.StaysCleared capacity calls i k := by
  intro h
  refine h 2 clearedMeanwhile 1 1 rfl 3 (by decide) ?_ ?_
  · -- a computation that begins after moment 1 does not end before moment 3
    rintro ⟨c, b, e, a, hlasts, -, -, hb, he⟩
    have := hlasts.lt
    omega
  · exact ⟨⟨1, 0, .ok 10, []⟩, 0, 2, 10, ⟨⟨rfl, rfl⟩, by decide, rfl, rfl, rfl⟩, rfl, by decide⟩

end Shared

end TagCatalog
