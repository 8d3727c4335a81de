import Mathlib.Tactic
import TagCatalog.Proofs.Exchange.Retrying

/-!
How long a sender waits in all.

A wait is a power of two times the first one. The power stops one short of the 32nd, a wait stops at
the greatest span of time, and so does the sum of waits. As waits are only ever added, stopping on
the way comes to the same as stopping at the end.

* `Duration.nanos_add`, `Duration.nanos_mul`: sums and multiples of spans stop at the greatest one.
* `RetryPolicy.factor_eq`, `RetryPolicy.sum_factor`: by how much waits grow, and their sum.
* `RetryPolicy.min_slept`: what a sender has slept, as far as a span of time can tell.
* `backoff_exact`: the waits, their sum, and the time that a request takes.
-/

namespace TagCatalog

namespace Duration

lemma nanos_ofNanos (n : Nat) : (ofNanos n).nanos = min n greatest.nanos := by
  rw [ofNanos]
  split <;> simp only [greatest] <;> omega

lemma nanos_add (a b : Duration) : (a.add b).nanos = min (a.nanos + b.nanos) greatest.nanos :=
  nanos_ofNanos _

lemma nanos_mul (a : Duration) (n : Nat) : (a.mul n).nanos = min (a.nanos * n) greatest.nanos :=
  nanos_ofNanos _

end Duration

open Duration (greatest)

namespace RetryPolicy

variable (p : RetryPolicy) (n : Nat)

/-! ### Single waits -/

/-- Waits double until the factor stops one short of a power of two. -/
lemma factor_eq : factor n = min (2 ^ n) (2 ^ 32 - 1) := by
  rw [factor]
  split
  next hn =>
    have hpow : 2 ^ n ≤ 2 ^ 31 := Nat.pow_le_pow_right (by decide) (by omega)
    rw [Nat.one_shiftLeft]
    omega
  next hn =>
    have hpow : 2 ^ 32 ≤ 2 ^ n := Nat.pow_le_pow_right (by decide) (by omega)
    show 2 ^ 32 - 1 = min (2 ^ n) (2 ^ 32 - 1)
    omega

lemma factor_mono {i j : Nat} (h : i ≤ j) : factor i ≤ factor j := by
  rw [factor_eq, factor_eq]
  exact min_le_min_right _ (Nat.pow_le_pow_right (by decide) h)

lemma nanos_delay : (p.delay n).nanos = min (p.baseDelay.nanos * factor n) greatest.nanos :=
  Duration.nanos_mul ..

/-- No wait is shorter than one before it. -/
lemma nanos_delay_mono {i j : Nat} (h : i ≤ j) : (p.delay i).nanos ≤ (p.delay j).nanos := by
  rw [nanos_delay, nanos_delay]
  exact min_le_min_right _ (Nat.mul_le_mul_left _ (factor_mono h))

/-! ### Sums of waits -/

/-- The sum of the first `n` factors. -/
def factorSum (n : Nat) : Nat := ∑ i ∈ Finset.range n, factor i

lemma factorSum_succ : factorSum (n + 1) = factorSum n + factor n := Finset.sum_range_succ ..

/-- Powers of two sum up to one short of the next power; from the 33rd on the factors are alike. -/
lemma factorSum_eq :
    factorSum n = if n ≤ 32 then 2 ^ n - 1 else (2 ^ 32 - 1) * (n - 31) := by
  induction n with
  | zero => rfl
  | succ n ih =>
    rw [factorSum_succ, ih, factor_eq]
    obtain hn | rfl | hn := lt_trichotomy n 32
    · have hpow : 2 ^ n ≤ 2 ^ 31 := Nat.pow_le_pow_right (by decide) (by omega)
      have hpos : 0 < 2 ^ n := Nat.two_pow_pos n
      rw [if_pos hn.le, if_pos (by omega), pow_succ]
      omega
    · decide
    · have hpow : 2 ^ 32 ≤ 2 ^ n := Nat.pow_le_pow_right (by decide) hn.le
      rw [if_neg (by omega), if_neg (by omega)]
      omega

/-- No more is slept than the waits would be if they did not stop. -/
lemma slept_le : p.slept n ≤ p.baseDelay.nanos * factorSum n := by
  induction n with
  | zero => exact Nat.zero_le _
  | succ n ih =>
    rw [slept, nanos_delay, factorSum_succ, Nat.mul_add]
    omega

/-- Up to the greatest span of time, just that much is slept. -/
lemma min_slept :
    min (p.slept n) greatest.nanos = min (p.baseDelay.nanos * factorSum n) greatest.nanos := by
  induction n with
  | zero => rfl
  | succ n ih =>
    rw [slept, nanos_delay, factorSum_succ, Nat.mul_add]
    omega

/-- The waits added one after another. -/
lemma nanos_foldl_add :
    ((List.range n).foldl (fun t i => Duration.add t (p.delay i)) .zero).nanos =
      min (p.slept n) greatest.nanos := by
  induction n with
  | zero => rfl
  | succ n ih =>
    rw [List.range_succ, List.foldl_append, List.foldl_cons, List.foldl_nil, Duration.nanos_add, ih,
      slept]
    omega

/-- From the 33rd on the waits are alike. -/
lemma delay_of_le (h : 32 ≤ n) : p.delay n = p.delay 32 := by
  rw [delay, delay, factor, factor, if_neg h.not_gt, if_neg (lt_irrefl 32)]

lemma slept_add (k : Nat) : p.slept (32 + k) = p.slept 32 + (p.delay 32).nanos * k := by
  induction k with
  | zero => rw [Nat.add_zero, Nat.mul_zero, Nat.add_zero]
  | succ k ih =>
    rw [← Nat.add_assoc, slept, ih, p.delay_of_le _ (Nat.le_add_right 32 k), Nat.mul_succ,
      Nat.add_assoc]

/-- The sum of the first waits, however it is worked out. -/
lemma nanos_backoff : (p.backoff n).nanos = min (p.slept n) greatest.nanos := by
  rw [backoff, Duration.nanos_add, nanos_foldl_add, Duration.nanos_mul]
  obtain hn | hn := le_total n 32
  · rw [Nat.min_eq_left hn, Nat.sub_eq_zero_of_le hn]
    omega
  · obtain ⟨k, rfl⟩ := Nat.exists_eq_add_of_le hn
    rw [Nat.min_eq_right hn, Nat.add_sub_cancel_left, slept_add]
    omega

/-- Where the waits do not stop, just their sum is slept. -/
lemma slept_eq (h : p.baseDelay.nanos * factorSum n ≤ greatest.nanos) :
    p.slept n = p.baseDelay.nanos * factorSum n := by
  have hmost := p.slept_le n
  have hmin := p.min_slept n
  omega

end RetryPolicy

/-- A request all of whose attempts fail takes as long as the waits between them. -/
lemma Network.send_of_fails_all {net : Network} {p : RetryPolicy} {c : Cancellation} {r : Request}
    (hfails : net.Fails r p.maxAttempts)
    (hfired : c.fired (p.maxAttempts - 1) (net.now + p.slept (p.maxAttempts - 1)) = false) :
    (∃ f, (net.send p c r).1 = .error (.exhausted p.maxAttempts f)) ∧
    (net.send p c r).2.now = net.now + p.slept (p.maxAttempts - 1) := by
  obtain ⟨n, hmax⟩ : ∃ n, p.maxAttempts = n + 1 := Nat.exists_eq_add_one.2 p.pos
  rw [hmax, Nat.add_sub_cancel] at hfired
  rw [hmax] at hfails ⊢
  rw [Nat.add_sub_cancel]
  obtain ⟨f, ho, hf⟩ := hfails.exists_failure
  have hsend := send_of_last (c := c) hfails.of_succ (hmax ▸ Nat.lt_succ_self n) (.inr hmax) hfired
  rw [hsend, now_concluded, ho, RetryPolicy.verdict, if_pos hf, if_pos hmax.le]
  exact ⟨⟨f, rfl⟩, rfl⟩

/-- **Waits are exact up to the greatest span of time.** For any number of attempts and any first
wait: the wait after an attempt is the first one times a power of two, where the power stops one
short of the 32nd and the wait at the greatest span, so no wait is shorter than one before it. The
waits added one after another come to `2 ^ (m - 1) - 1` first waits if `m`, the number of attempts
but at least one, is at most 33, and to `(2 ^ 32 - 1) * (m - 32)` of them otherwise, or to the
greatest span. If they do not exceed it, a request takes just that time when all its attempts fail
in a way that another may mend. -/
theorem backoff_exact (attempts : UInt32) (baseDelay : Duration) :
    let p := RetryPolicy.ofAttempts attempts baseDelay
    let m := max attempts.toNat 1
    let waits := if m ≤ 33 then 2 ^ (m - 1) - 1 else (2 ^ 32 - 1) * (m - 32)
    (∀ i, (p.delay i).nanos =
      min (baseDelay.nanos * min (2 ^ i) (2 ^ 32 - 1)) greatest.nanos) ∧
    (∀ i j, i ≤ j → (p.delay i).nanos ≤ (p.delay j).nanos) ∧
    p.totalBackoff = (List.range (m - 1)).foldl (fun t i => t.add (p.delay i)) .zero ∧
    p.totalBackoff.nanos = min (baseDelay.nanos * waits) greatest.nanos ∧
    (baseDelay.nanos * waits ≤ greatest.nanos →
      ∀ (net : Network) (c : Cancellation) (r : Request), net.Fails r m →
        c.fired (m - 1) (net.now + baseDelay.nanos * waits) = false →
        (∃ f, (net.send p c r).1 = .error (.exhausted m f)) ∧
        (net.send p c r).2.now = net.now + p.totalBackoff.nanos) := by
  intro p m waits
  have hwaits : RetryPolicy.factorSum (m - 1) = waits := by
    have hm : 1 ≤ m := le_max_right ..
    rw [RetryPolicy.factorSum_eq, Nat.sub_sub]
    exact if_congr (by omega) rfl rfl
  have htotal : p.totalBackoff.nanos = min (p.slept (m - 1)) greatest.nanos := p.nanos_backoff _
  refine ⟨fun i => ?_, fun i j hij => p.nanos_delay_mono hij, ?_, ?_,
    fun hle net c r hfails hfired => ?_⟩
  · rw [p.nanos_delay, RetryPolicy.factor_eq]
    rfl
  · exact Duration.ext (htotal.trans (p.nanos_foldl_add _).symm)
  · rw [htotal, p.min_slept, hwaits]
    rfl
  · have hslept : p.slept (m - 1) = baseDelay.nanos * waits := hwaits ▸ p.slept_eq _ (hwaits ▸ hle)
    rw [← hslept] at hfired
    obtain ⟨hended, hnow⟩ := Network.send_of_fails_all (p := p) hfails hfired
    refine ⟨hended, hnow.trans (congrArg (net.now + ·) ?_)⟩
    rw [htotal]
    exact (Nat.min_eq_left (hslept.trans_le hle)).symm

/-- Three attempts that fail take two waits. -/
theorem backoff_exact_threeAttempts :
    let p := RetryPolicy.ofAttempts 3 (Duration.ofMillis 10)
    let net := Network.fresh [] (.failing fun _ => .timeout "no answer")
    let r := Request.plain .get "http://tagstorm.test/api/tags"
    net.Fails r 3 ∧ (net.send p .never r).2.now = 30000000 := by
  intro p net r
  have hfails : net.Fails r 3 := fun i _ => by cases i <;> rfl
  have hexact := (backoff_exact 3 (Duration.ofMillis 10)).2.2.2.2
  obtain ⟨-, hnow⟩ := hexact (by decide) net .never r hfails rfl
  exact ⟨hfails, hnow.trans (by decide)⟩

/-- Four attempts, the first wait one second: one, two and four seconds. -/
example : RetryPolicy.standard.totalBackoff = Duration.ofMillis 7000 := by decide

end TagCatalog
