import Mathlib.Tactic
import TagCatalog.Exchange.Network

/-!
What comes of a request that is sent again and again.

* `Network.outcome`: what each attempt meets with. After one that `settles` a request there is no
  other, however many the policy allows.
* `Network.Fails`: so many attempts meet with failures that another attempt may mend.
* `RetryPolicy.verdict`, `Network.verdict`: what is told of the last attempt.
* `Network.retried`: the network when so many attempts failed and the pauses after them are over.
* `Network.send_of_last`, `Network.send_of_interrupt`: what comes of a request that is not given up
  before its last attempt, and of one that is given up in a pause.
-/

namespace TagCatalog

/-! ### Outcomes -/

/-- Whether no other attempt follows an outcome, however many are allowed. -/
def settles : Except Failure Response → Bool
  | .ok _ => true
  | .error f => !f.isRetryable

lemma exists_of_not_settles {o : Except Failure Response} (h : settles o = false) :
    ∃ f, o = .error f ∧ f.isRetryable = true := by
  cases o with
  | ok a => cases h
  | error f => exact ⟨f, rfl, by simpa [settles] using h⟩

/-- What is told when attempt `n`, counted from one, was the last. Where another attempt was allowed
and might have mended the failure, the request was given up. -/
def RetryPolicy.verdict (p : RetryPolicy) (n : Nat) : Except Failure Response →
    Except SendError Response
  | .ok a => .ok a
  | .error f =>
    .error <|
      if f.isRetryable then
        if p.maxAttempts ≤ n then .exhausted n f else .cancelled n
      else .final n f

lemma RetryPolicy.succ_lt_size (p : RetryPolicy) {n : Nat} (hn : n < p.maxAttempts) :
    n + 1 < UInt32.size := Nat.lt_of_le_of_lt hn p.lt_size

/-- The nanoseconds of the pauses after the first `n` attempts. -/
def RetryPolicy.slept (p : RetryPolicy) : Nat → Nat
  | 0 => 0
  | n + 1 => p.slept n + (p.delay n).nanos

lemma RetryPolicy.slept_le_succ (p : RetryPolicy) (n : Nat) : p.slept n ≤ p.slept (n + 1) :=
  Nat.le_add_right ..

namespace Network

/-- What the attempt after `n` others meets with. -/
def outcome (net : Network) (r : Request) (n : Nat) : Except Failure Response :=
  net.outcomes[n]?.getD (net.fallback.outcome r)

/-- What is told when `n` attempts were made and there is no other. -/
def verdict (net : Network) (p : RetryPolicy) (r : Request) : Nat → Except SendError Response
  | 0 => .error (.cancelled 0)
  | n + 1 => p.verdict (n + 1) (net.outcome r n)

/-- The first `n` attempts meet with failures that another attempt may mend. -/
def Fails (net : Network) (r : Request) (n : Nat) : Prop :=
  ∀ i < n, settles (net.outcome r i) = false

lemma Fails.succ {net : Network} {r : Request} {n : Nat} {f : Failure} (h : net.Fails r n)
    (ho : net.outcome r n = .error f) (hf : f.isRetryable = true) : net.Fails r (n + 1) := by
  intro i hi
  obtain hlt | rfl := Nat.lt_succ_iff_lt_or_eq.1 hi
  · exact h i hlt
  · rw [ho, settles, hf, Bool.not_true]

lemma Fails.of_succ {net : Network} {r : Request} {n : Nat} (h : net.Fails r (n + 1)) :
    net.Fails r n := fun i hi => h i (Nat.lt_succ_of_lt hi)

lemma Fails.exists_failure {net : Network} {r : Request} {n : Nat} (h : net.Fails r (n + 1)) :
    ∃ f, net.outcome r n = .error f ∧ f.isRetryable = true :=
  exists_of_not_settles (h n (Nat.lt_succ_self n))

/-! ### The network after failures -/

/-- An attempt after `n` others, and what is logged before another one. -/
def retry (net : Network) (p : RetryPolicy) (r : Request) (n : Nat) : Network :=
  match net.attempt r with
  | (.ok _, net) => net
  | (.error f, net) => net.reportRetry r (n + 1) (p.delay n) f

/-- The network when `n` attempts have failed and the pauses after them are over. -/
def retried (net : Network) (p : RetryPolicy) (r : Request) : Nat → Network
  | 0 => net
  | n + 1 =>
    { (net.retried p r n).retry p r n with now := (net.retried p r n).now + (p.delay n).nanos }

/-- The network at time `t` of the pause after `n + 1` attempts that have failed. -/
def paused (net : Network) (p : RetryPolicy) (r : Request) (n t : Nat) : Network :=
  { (net.retried p r n).retry p r n with now := t }

/-- Logs what came of the last of `n` attempts. -/
def conclude (net : Network) (r : Request) (n : Nat) : Except Failure Response → Network
  | .ok a => net.reportAnswer r n a
  | .error f =>
    if f.isRetryable then net.reportFailure "request failed, retries exhausted" r n f
    else net.reportFailure "request failed, not retryable" r n f

/-- The network when `n` attempts have failed and the next one was the last. -/
def concluded (net : Network) (p : RetryPolicy) (r : Request) (n : Nat) : Network :=
  ((net.retried p r n).attempt r).2.conclude r (n + 1) (net.outcome r n)

/-- The attempt after `n` others that have failed. -/
def attemptAfter (net : Network) (p : RetryPolicy) (r : Request) (n : Nat) : Attempt :=
  ⟨net.now + p.slept n, r, net.outcome r n⟩

variable (net : Network) (p : RetryPolicy) (r : Request) (n t : Nat)

@[simp] lemma outcomes_retry : (net.retry p r n).outcomes = net.outcomes.tail := by
  unfold retry attempt
  cases net.outcomes.head?.getD (net.fallback.outcome r) <;> rfl

@[simp] lemma fallback_retry : (net.retry p r n).fallback = net.fallback := by
  unfold retry attempt
  cases net.outcomes.head?.getD (net.fallback.outcome r) <;> rfl

@[simp] lemma now_retry : (net.retry p r n).now = net.now := by
  unfold retry attempt
  cases net.outcomes.head?.getD (net.fallback.outcome r) <;> rfl

@[simp] lemma attempts_retry : (net.retry p r n).attempts = (net.attempt r).2.attempts := by
  unfold retry attempt
  cases net.outcomes.head?.getD (net.fallback.outcome r) <;> rfl

lemma outcomes_retried : (net.retried p r n).outcomes = net.outcomes.drop n := by
  induction n with
  | zero => rfl
  | succ n ih => simp [retried, ih, List.tail_drop]

lemma fallback_retried : (net.retried p r n).fallback = net.fallback := by
  induction n with
  | zero => rfl
  | succ n ih => simp [retried, ih]

lemma now_retried : (net.retried p r n).now = net.now + p.slept n := by
  induction n with
  | zero => rfl
  | succ n ih => simp only [retried, ih, RetryPolicy.slept, Nat.add_assoc]

/-- The next attempt meets with its own outcome. -/
lemma attempt_retried :
    (net.retried p r n).attempt r = (net.outcome r n, ((net.retried p r n).attempt r).2) := by
  simp [attempt, outcome, outcomes_retried, fallback_retried]

lemma attempts_attempt_retried :
    ((net.retried p r n).attempt r).2.attempts =
      (net.retried p r n).attempts ++ [net.attemptAfter p r n] := by
  simp [attempt, attemptAfter, outcome, outcomes_retried, fallback_retried, now_retried]

lemma attempts_retried :
    (net.retried p r n).attempts =
      net.attempts ++ (List.range n).map (net.attemptAfter p r) := by
  induction n with
  | zero => simp [retried]
  | succ n ih =>
    simp [retried, attempts_attempt_retried, ih, List.range_succ]

lemma paused_slept :
    net.paused p r n (net.now + p.slept n) = (net.retried p r n).retry p r n := by
  rw [paused, ← now_retried, ← now_retry _ p r n]

/-- When a pause is over there may be another attempt. -/
lemma paused_slept_succ :
    net.paused p r n (net.now + p.slept (n + 1)) = net.retried p r (n + 1) := by
  rw [paused, retried, now_retried, Nat.add_assoc, RetryPolicy.slept]

@[simp] lemma now_paused : (net.paused p r n t).now = t := rfl

lemma attempts_paused :
    (net.paused p r n t).attempts =
      net.attempts ++ (List.range (n + 1)).map (net.attemptAfter p r) := by
  simp [paused, attempts_attempt_retried, attempts_retried, List.range_succ]

@[simp] lemma now_conclude (o : Except Failure Response) : (net.conclude r n o).now = net.now := by
  cases o with
  | ok a => rw [conclude, reportAnswer]; split <;> rfl
  | error f => rw [conclude]; split <;> rfl

@[simp] lemma attempts_conclude (o : Except Failure Response) :
    (net.conclude r n o).attempts = net.attempts := by
  cases o with
  | ok a => rw [conclude, reportAnswer]; split <;> rfl
  | error f => rw [conclude]; split <;> rfl

lemma now_concluded : (net.concluded p r n).now = net.now + p.slept n := by
  rw [concluded, now_conclude, ← now_retried]
  rfl

lemma attempts_concluded :
    (net.concluded p r n).attempts =
      net.attempts ++ (List.range (n + 1)).map (net.attemptAfter p r) := by
  simp [concluded, attempts_attempt_retried, attempts_retried, List.range_succ]

variable {net p r n}

/-- The next attempt fails, and this is logged. -/
lemma retry_retried {f : Failure} (h : net.outcome r n = .error f) :
    (net.retried p r n).retry p r n =
      ((net.retried p r n).attempt r).2.reportRetry r (n + 1) (p.delay n) f := by
  rw [retry, attempt_retried, h]

end Network

/-! ### Giving up -/

namespace Cancellation

variable {c : Cancellation} {made made' now now' wake : Nat}

/-- What has been given up stays so. -/
lemma fired_mono (hmade : made ≤ made') (hnow : now ≤ now') (h : c.fired made now = true) :
    c.fired made' now' = true := by
  cases c with
  | never => cases h
  | before => rfl
  | duringAttempt n =>
    simp only [fired, Bool.and_eq_true, decide_eq_true_eq] at h ⊢
    omega
  | atTime t =>
    simp only [fired, decide_eq_true_eq] at h ⊢
    omega

/-- A pause ends early unless the token has not fired by its end. -/
lemma interrupt?_eq_none_iff (hnow : now ≤ wake) :
    c.interrupt? made now wake = none ↔ c.fired made wake = false := by
  cases c with
  | atTime t =>
    simp only [interrupt?, fired, decide_eq_true_eq, decide_eq_false_iff_not]
    split_ifs <;> simp <;> omega
  | _ => simp [interrupt?, fired]

/-- A pause ends early at a time within it, by which the token has fired. -/
lemma interrupt?_eq_some {t : Nat} (hnow : now ≤ wake) (h : c.interrupt? made now wake = some t) :
    now ≤ t ∧ t ≤ wake ∧ c.fired made t = true := by
  unfold interrupt? at h
  split at h
  case isTrue hfired =>
    cases h
    exact ⟨le_rfl, hnow, hfired⟩
  case isFalse hfired =>
    cases c with
    | atTime t' =>
      simp only [fired, decide_eq_true_eq] at hfired h ⊢
      split at h <;> cases h
      omega
    | _ => cases h

end Cancellation

/-! ### Sending -/

namespace Network

variable {net : Network} {p : RetryPolicy} {c : Cancellation} {r : Request} {n : Nat}

/-- A pause that ends early ends at a time within it, by which the token has fired. -/
lemma exists_of_pause {net' : Network} {d : Duration} (h : net.pause c n d = (true, net')) :
    ∃ t, net.now ≤ t ∧ t ≤ net.now + d.nanos ∧ c.fired n t = true ∧
      net' = { net with now := t } := by
  unfold pause at h
  split at h <;> cases h
  case h_1 t ht =>
    obtain ⟨hbegin, hend, hfired⟩ := Cancellation.interrupt?_eq_some (Nat.le_add_right ..) ht
    exact ⟨t, hbegin, hend, hfired, rfl⟩

/-- By the end of a pause that does not end early the token has not fired. -/
lemma of_pause {net' : Network} {d : Duration} (h : net.pause c n d = (false, net')) :
    c.fired n (net.now + d.nanos) = false ∧ net' = { net with now := net.now + d.nanos } := by
  unfold pause at h
  split at h <;> cases h
  case h_2 hnone =>
    exact ⟨(Cancellation.interrupt?_eq_none_iff (Nat.le_add_right ..)).1 hnone, rfl⟩

/-- What an attempt before which nothing was given up leads to. -/
lemma sendAfter_of_not_fired {left : Nat}
    (hc : c.fired n (net.retried p r n).now = false) :
    sendAfter p c r left n (net.retried p r n) =
      match net.outcome r n with
      | .ok a => (.ok a, ((net.retried p r n).attempt r).2.reportAnswer r (n + 1) a)
      | .error f =>
        if f.isRetryable then
          match left with
          | 0 =>
            (.error (.exhausted (n + 1) f), ((net.retried p r n).attempt r).2.reportFailure
              "request failed, retries exhausted" r (n + 1) f)
          | left + 1 =>
            match ((net.retried p r n).retry p r n).pause c (n + 1) (p.delay n) with
            | (true, net) => (.error (.cancelled (n + 1)), net)
            | (false, net) => sendAfter p c r left (n + 1) net
        else
          (.error (.final (n + 1) f), ((net.retried p r n).attempt r).2.reportFailure
            "request failed, not retryable" r (n + 1) f) := by
  cases ho : net.outcome r n with
  | ok a => rw [sendAfter, hc, attempt_retried, ho]; rfl
  | error f =>
    rw [sendAfter, hc, attempt_retried, ho, retry_retried ho]
    cases left <;> rfl

/-- The token has not fired by the time of an attempt if it has not by that of a later one. -/
lemma not_fired_of_succ (hc : c.fired (n + 1) (net.now + p.slept (n + 1)) = false) :
    c.fired n (net.now + p.slept n) = false := by
  refine Bool.eq_false_of_not_eq_true fun hfired => ?_
  rw [Cancellation.fired_mono (Nat.le_succ n)
    (Nat.add_le_add_left (p.slept_le_succ n) _) hfired] at hc
  cases hc

/-- As long as attempts fail and nothing is given up, there is another. -/
theorem send_eq_sendAfter (hfails : net.Fails r n) (hn : n < p.maxAttempts)
    (hc : n = 0 ∨ c.fired n (net.now + p.slept n) = false) :
    net.send p c r = sendAfter p c r (p.maxAttempts - 1 - n) n (net.retried p r n) := by
  induction n with
  | zero => rfl
  | succ n ih =>
    have hc : c.fired (n + 1) (net.now + p.slept (n + 1)) = false := by simpa using hc
    have hbefore := not_fired_of_succ hc
    obtain ⟨f, ho, hf⟩ := hfails.exists_failure
    have hleft : p.maxAttempts - 1 - n = p.maxAttempts - 1 - (n + 1) + 1 := by omega
    have hpause : ((net.retried p r n).retry p r n).pause c (n + 1) (p.delay n) =
        (false, net.retried p r (n + 1)) := by
      rw [pause, (Cancellation.interrupt?_eq_none_iff (Nat.le_add_right ..)).2]
      · rw [now_retry, retried]
      · rwa [now_retry, now_retried, Nat.add_assoc]
    rw [ih hfails.of_succ (by omega) (.inr hbefore), hleft,
      sendAfter_of_not_fired (by rwa [now_retried]), ho]
    simp only [hf, if_true, hpause]

/-- What comes of a request of which `n` attempts fail and the next one is the last, if it was not
given up before that. -/
theorem send_of_last (hfails : net.Fails r n) (hn : n < p.maxAttempts)
    (hlast : settles (net.outcome r n) = true ∨ p.maxAttempts = n + 1)
    (hc : c.fired n (net.now + p.slept n) = false) :
    net.send p c r = (p.verdict (n + 1) (net.outcome r n), net.concluded p r n) := by
  rw [send_eq_sendAfter hfails hn (.inr hc), sendAfter_of_not_fired (by rwa [now_retried]),
    concluded]
  cases ho : net.outcome r n with
  | ok a => rfl
  | error f =>
    cases hf : f.isRetryable with
    | false => simp [RetryPolicy.verdict, conclude, hf]
    | true =>
      have hmax : p.maxAttempts = n + 1 := by simpa [ho, settles, hf] using hlast
      simp [RetryPolicy.verdict, conclude, hf, hmax]

/-- What comes of a request that is given up in the pause after `n + 1` attempts. -/
theorem send_of_interrupt {t : Nat} (hfails : net.Fails r (n + 1)) (hn : n + 1 < p.maxAttempts)
    (hc : c.fired n (net.now + p.slept n) = false)
    (ht : c.interrupt? (n + 1) (net.now + p.slept n) (net.now + p.slept (n + 1)) = some t) :
    net.send p c r = (.error (.cancelled (n + 1)), net.paused p r n t) := by
  obtain ⟨f, ho, hf⟩ := hfails.exists_failure
  have hleft : p.maxAttempts - 1 - n = p.maxAttempts - 1 - (n + 1) + 1 := by omega
  have hpause : ((net.retried p r n).retry p r n).pause c (n + 1) (p.delay n) =
      (true, net.paused p r n t) := by
    rw [pause, paused, now_retry, now_retried, Nat.add_assoc, ← RetryPolicy.slept, ht]
  rw [send_eq_sendAfter hfails.of_succ (by omega) (.inr hc), hleft,
    sendAfter_of_not_fired (by rwa [now_retried]), ho]
  simp only [hf, if_true, hpause]

end Network

end TagCatalog
