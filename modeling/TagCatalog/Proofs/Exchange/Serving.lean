import Mathlib.Tactic
import TagCatalog.Proofs.Exchange.Burst
import TagCatalog.Proofs.Exchange.Retrying

/-!
Networks behind which there is a service.

A service answers each request in its own way, and some attempts do not reach it.

* `Service.Reachable`: retrying gets through, however often a request is tried at most.
* `Network.ServedBy`: every attempt from some number on met with what the service gives.
* `Network.answered`: the requests that were answered.
* `Network.send_of_servedBy`, `Network.exists_script`: a request to a reachable service gets its
  answer, and some outcomes are those that the service gives.
-/

namespace TagCatalog

/-- A service, and the attempts that do not reach it. -/
structure Service where
  /-- The answer to a request. -/
  respond : Request → Response
  /-- Why attempt `n`, counted from zero, brings no response. -/
  fault? : Nat → Option Failure

namespace Service

/-- What attempt `n` meets with. -/
def outcome (s : Service) (n : Nat) (r : Request) : Except Failure Response :=
  match s.fault? n with
  | some f => .error f
  | none => .ok (s.respond r)

/-- Retrying gets through: another attempt may mend each failure, and never do as many attempts fail
one after another as are allowed for a request. -/
structure Reachable (s : Service) (p : RetryPolicy) : Prop where
  isRetryable {n : Nat} {f : Failure} (h : s.fault? n = some f) : f.isRetryable = true
  exists_reached (n : Nat) : ∃ i < p.maxAttempts, s.fault? (n + i) = none

/-- What a request meets with from attempt `n` on, when `i` attempts at it fail. -/
def script (s : Service) (n i : Nat) (r : Request) : List (Except Failure Response) :=
  (List.range (i + 1)).map fun k => s.outcome (n + k) r

variable {s : Service} {p : RetryPolicy} {n : Nat} {r : Request}

lemma outcome_of_none (h : s.fault? n = none) : s.outcome n r = .ok (s.respond r) := by
  rw [outcome, h]

lemma Reachable.not_settles (hs : s.Reachable p) (h : s.fault? n ≠ none) :
    settles (s.outcome n r) = false := by
  obtain ⟨f, hf⟩ := Option.ne_none_iff_exists'.1 h
  rw [outcome, hf, settles, hs.isRetryable hf, Bool.not_true]

/-- From every attempt on, there is a first one that is answered, and it is still allowed. -/
lemma Reachable.exists_first (hs : s.Reachable p) (n : Nat) :
    ∃ i < p.maxAttempts, s.fault? (n + i) = none ∧ ∀ k < i, s.fault? (n + k) ≠ none := by
  have hex : ∃ i, s.fault? (n + i) = none := (hs.exists_reached n).imp fun _ h => h.2
  obtain ⟨i, hi, hnone⟩ := hs.exists_reached n
  exact ⟨Nat.find hex, lt_of_le_of_lt (Nat.find_min' hex hnone) hi, Nat.find_spec hex,
    fun k hk => Nat.find_min hex hk⟩

/-- If only the first attempt fails, retrying once gets through. -/
lemma reachable_of_one {f : Failure} (hf : f.isRetryable = true)
    (h : ∀ n, s.fault? n = if n = 0 then some f else none) (hp : 1 < p.maxAttempts) :
    s.Reachable p where
  isRetryable {n g} hg := by
    rw [h] at hg
    split_ifs at hg
    cases hg
    exact hf
  exists_reached n := ⟨1, hp, (h (n + 1)).trans (if_neg n.succ_ne_zero)⟩

end Service

namespace Network

/-- Every attempt from number `n` on met with what the service gives. -/
def ServedBy (net : Network) (s : Service) (n : Nat) : Prop :=
  ∀ i a, n ≤ i → net.attempts[i]? = some a → a.outcome = s.outcome i a.request

/-- The requests that were answered from attempt `n` on, in order. -/
def answered (net : Network) (n : Nat) : List Request :=
  ((net.attempts.drop n).filter fun a => a.outcome.isOk).map (·.request)

variable {net net' : Network} {s : Service} {p : RetryPolicy} {n i : Nat} {r : Request}

/-- What holds of all attempts holds of the first ones. -/
lemma ServedBy.of_kept (h : net'.ServedBy s n) (hkept : net.attempts <+: net'.attempts) :
    net.ServedBy s n := by
  intro i a hi ha
  obtain ⟨l, hl⟩ := hkept
  refine h i a hi ?_
  rwa [← hl, List.getElem?_append_left (List.getElem?_eq_some_iff.1 ha).1]

/-- What holds from one attempt on holds from each later one on. -/
lemma ServedBy.mono {m : Nat} (h : net.ServedBy s n) (hle : n ≤ m) : net.ServedBy s m :=
  fun i a hi => h i a (hle.trans hi)

/-- What holds of the first attempts and of the others holds of all. -/
lemma ServedBy.trans (h : net.ServedBy s n) (hkept : net.attempts <+: net'.attempts)
    (h' : net'.ServedBy s net.attempts.length) : net'.ServedBy s n := by
  intro i a hi ha
  obtain ⟨l, hl⟩ := hkept
  by_cases hlt : i < net.attempts.length
  · refine h i a hi ?_
    rwa [← hl, List.getElem?_append_left hlt] at ha
  · exact h' i a (not_lt.1 hlt) ha

/-- What was answered since a first attempt was answered before a second one, or since. -/
lemma answered_eq_append (hn : n ≤ net.attempts.length) (hkept : net.attempts <+: net'.attempts) :
    net'.answered n = net.answered n ++ net'.answered net.attempts.length := by
  obtain ⟨l, hl⟩ := hkept
  simp only [answered, ← hl, List.drop_left, List.drop_append_of_le_length hn, List.filter_append,
    List.map_append]

/-! ### One request -/

/-- As long as attempts fail and another is allowed, it is made. -/
lemma attempts_prefix_send (hfails : net.Fails r i) (hi : i < p.maxAttempts) :
    net.attempts ++ (List.range (i + 1)).map (net.attemptAfter p r) <+:
      (net.send p .never r).2.attempts := by
  have hmade : net.attempts ++ (List.range (i + 1)).map (net.attemptAfter p r) =
      ((net.retried p r i).attempt r).2.attempts := by
    rw [attempts_attempt_retried, attempts_retried, List.range_succ, List.map_append,
      List.append_assoc, List.map_singleton]
  rw [hmade, send_eq_sendAfter hfails hi (.inr rfl), sendAfter_of_not_fired rfl]
  split
  next => rw [attempts_reportAnswer]
  next =>
    split_ifs
    · split
      next => exact List.prefix_rfl
      next =>
        rw [← attempts_retry]
        split
        next hpause => rw [attempts_of_pause hpause]
        next hpause =>
          obtain ⟨l, -, hl, -⟩ := exists_burst_sendAfter p .never r _ (i + 1) _
          rw [hl, attempts_of_pause hpause]
          exact List.prefix_append ..
    · exact List.prefix_rfl

/-- The last attempt has used up its outcome, and those before it theirs. -/
lemma outcomes_concluded : (net.concluded p r i).outcomes = net.outcomes.drop (i + 1) := by
  have hattempt : ((net.retried p r i).attempt r).2.outcomes = net.outcomes.drop (i + 1) := by
    rw [outcomes_of_attempt (attempt_retried net p r i), outcomes_retried, List.tail_drop]
  rw [concluded]
  cases net.outcome r i with
  | ok a => rwa [conclude, outcomes_reportAnswer]
  | error f => rw [conclude]; split_ifs <;> rwa [outcomes_reportFailure]

/-- A request whose attempts meet with what a service gives ends with the first answer. -/
lemma send_of_outcomes (hs : s.Reachable p) (hi : i < p.maxAttempts)
    (hreached : s.fault? (n + i) = none) (hfirst : ∀ k < i, s.fault? (n + k) ≠ none)
    (ho : ∀ k ≤ i, net.outcome r k = s.outcome (n + k) r) :
    net.send p .never r = (.ok (s.respond r), net.concluded p r i) := by
  have hfails : net.Fails r i := fun k hk => by
    rw [ho k hk.le, hs.not_settles (hfirst k hk)]
  have hlast : net.outcome r i = .ok (s.respond r) := by
    rw [ho i le_rfl, Service.outcome_of_none hreached]
  rw [send_of_last hfails hi (.inl (by rw [hlast, settles])) rfl, hlast, RetryPolicy.verdict]

/-- The attempts at a request meet with what the service gives, up to the first that is answered. -/
lemma outcome_of_servedBy (hs : s.Reachable p) (hi : i < p.maxAttempts)
    (hfirst : ∀ k < i, s.fault? (net.attempts.length + k) ≠ none)
    (hserved : (net.send p .never r).2.ServedBy s net.attempts.length) :
    ∀ k ≤ i, net.outcome r k = s.outcome (net.attempts.length + k) r := by
  intro k
  -- all attempts before this one fail, so that this one is made
  induction k using Nat.strong_induction_on with
  | _ k ih =>
    intro hk
    have hfails : net.Fails r k := fun j hj => by
      rw [ih j hj (by omega), hs.not_settles (hfirst j (by omega))]
    obtain ⟨l, hl⟩ := attempts_prefix_send (p := p) hfails (by omega)
    refine hserved (net.attempts.length + k) (net.attemptAfter p r k) (Nat.le_add_right ..) ?_
    rw [← hl, List.append_assoc, List.getElem?_append_right (Nat.le_add_right ..),
      Nat.add_sub_cancel_left, List.getElem?_append_left (by simp)]
    simp

/-- Behind which there is a reachable service, a request gets its answer. -/
theorem send_of_servedBy (hs : s.Reachable p)
    (hserved : (net.send p .never r).2.ServedBy s net.attempts.length) :
    (net.send p .never r).1 = .ok (s.respond r) := by
  obtain ⟨i, hi, hreached, hfirst⟩ := hs.exists_first net.attempts.length
  rw [send_of_outcomes hs hi hreached hfirst (outcome_of_servedBy hs hi hfirst hserved)]

/-- A request that is answered is the one request that is answered meanwhile. -/
lemma answered_send {a : Response} (h : (net.send p .never r).1 = .ok a) :
    (net.send p .never r).2.answered net.attempts.length = [r] := by
  obtain ⟨l, hburst, hl, -⟩ := exists_burst_send net p .never r
  rw [answered, hl, List.drop_left]
  rw [h] at hburst
  cases hburst with
  | answered hfailed =>
    rw [List.filter_append, List.filter_eq_nil_iff.2]
    · rfl
    · intro b hb
      obtain ⟨-, f, hf⟩ := hfailed b hb
      rw [hf]
      exact Bool.false_ne_true

/-- Some outcomes are those that a reachable service gives to a request; each is that of an attempt,
and no other is used up. -/
theorem exists_script (hs : s.Reachable p) (n : Nat) (r : Request) :
    ∃ script, ∀ net : Network, net.attempts.length = n → ∀ rest, net.outcomes = script ++ rest →
      (net.send p .never r).2.ServedBy s n ∧ (net.send p .never r).2.outcomes = rest ∧
      (net.send p .never r).2.attempts.length = n + script.length := by
  obtain ⟨i, hi, hreached, hfirst⟩ := hs.exists_first n
  refine ⟨s.script n i r, fun net hn rest hrest => ?_⟩
  have hscript (k : Nat) (hk : k ≤ i) : net.outcome r k = s.outcome (n + k) r := by
    have hlt : k < (s.script n i r).length := by simp [Service.script]; omega
    rw [outcome, hrest, List.getElem?_append_left hlt]
    simp [Service.script, Nat.lt_succ_of_le hk]
  have hlength : (s.script n i r).length = i + 1 := by simp [Service.script]
  rw [send_of_outcomes hs hi hreached hfirst hscript]
  refine ⟨?_, by rw [outcomes_concluded, hrest, List.drop_left' hlength],
    by simp [attempts_concluded, hn, hlength]⟩
  intro j a hj ha
  rw [attempts_concluded, List.getElem?_append_right (by omega), List.getElem?_map,
    Option.map_eq_some_iff] at ha
  obtain ⟨k, hk, rfl⟩ := ha
  obtain ⟨hlt, rfl⟩ := List.getElem?_eq_some_iff.1 hk
  rw [List.length_range] at hlt
  have hindex : n + (j - net.attempts.length) = j := by omega
  rw [List.getElem_range, attemptAfter, hscript _ (by omega), hindex]

end Network

end TagCatalog
