import TagCatalog.Proofs.Exchange.Burst
import TagCatalog.Proofs.Exchange.Sending

/-!
Giving up a request is safe at any moment.

* `Course.verdict`: what is told of a course in which the token has fired. An attempt that is under
  way decides for itself; between attempts the request is given up.
* `Course.Settled`: what a fired token leaves as it is.
* `Course.safe_after_fire`: from the moment at which the token fires no attempt is made, and the
  course ends with its verdict, whichever of the token and the end of the pause wins.
-/

namespace TagCatalog

/-! ### Attempts before the firing -/

/-- The token has not fired when attempts begin, each after the ones before it and `made` others. -/
def Cancellation.Allows (c : Cancellation) (made : Nat) (attempts : List Attempt) : Prop :=
  ∀ i a, attempts[i]? = some a → c.fired (made + i) a.time = false

namespace Cancellation

variable {c : Cancellation} {made : Nat}

lemma allows_nil : c.Allows made [] := by
  intro i a ha
  cases ha

lemma Allows.cons {a : Attempt} {attempts : List Attempt} (h : c.Allows (made + 1) attempts)
    (ha : c.fired made a.time = false) : c.Allows made (a :: attempts) := by
  intro i b hb
  cases i with
  | zero =>
    cases hb
    exact ha
  | succ i =>
    rw [Nat.add_comm i, ← Nat.add_assoc]
    exact h i b hb

lemma Allows.singleton {a : Attempt} (ha : c.fired made a.time = false) : c.Allows made [a] :=
  allows_nil.cons ha

end Cancellation

namespace Network

/-- No attempt begins when the token has fired. -/
lemma exists_attempts_sendAfter (p : RetryPolicy) (c : Cancellation) (r : Request)
    (left made : Nat) (net : Network) :
    ∃ new, (sendAfter p c r left made net).2.attempts = net.attempts ++ new ∧
      c.Allows made new := by
  fun_induction sendAfter p c r left made net with
  | case1 left made net hfired => exact ⟨[], by simp, Cancellation.allows_nil⟩
  | case2 left made net hfired a net' hattempt =>
    exact ⟨[⟨net.now, r, .ok a⟩],
      (attempts_conclude _ _ _ (.ok a)).trans (attempts_of_attempt hattempt),
      .singleton (Bool.eq_false_of_not_eq_true hfired)⟩
  | case3 made net hfired f net' hattempt hf =>
    exact ⟨[⟨net.now, r, .error f⟩], (attempts_of_attempt hattempt :),
      .singleton (Bool.eq_false_of_not_eq_true hfired)⟩
  | case4 made net hfired f net' hattempt hf left net'' hpause =>
    obtain ⟨t, -, -, -, rfl⟩ := exists_of_pause hpause
    exact ⟨[⟨net.now, r, .error f⟩], (attempts_of_attempt hattempt :),
      .singleton (Bool.eq_false_of_not_eq_true hfired)⟩
  | case5 made net hfired f net' hattempt hf left net'' hpause ih =>
    obtain ⟨-, rfl⟩ := of_pause hpause
    obtain ⟨new, hnew, hallows⟩ := ih
    refine ⟨⟨net.now, r, .error f⟩ :: new, ?_, hallows.cons (Bool.eq_false_of_not_eq_true hfired)⟩
    rw [hnew, List.append_cons, ← attempts_of_attempt hattempt]
    rfl
  | case6 left made net hfired f net' hattempt hf =>
    exact ⟨[⟨net.now, r, .error f⟩], (attempts_of_attempt hattempt :),
      .singleton (Bool.eq_false_of_not_eq_true hfired)⟩

/-- Where a request was given up the token has fired. -/
lemma fired_of_cancelled {p : RetryPolicy} {c : Cancellation} {r : Request} {left made n : Nat}
    {net : Network} (h : (sendAfter p c r left made net).1 = .error (.cancelled n)) :
    c.fired n (sendAfter p c r left made net).2.now = true := by
  fun_induction sendAfter p c r left made net with
  | case1 left made net hfired =>
    cases h
    exact hfired
  | case4 made net hfired f net' hattempt hf left net'' hpause =>
    obtain ⟨t, -, -, ht, rfl⟩ := exists_of_pause hpause
    cases h
    exact ht
  | case5 made net hfired f net' hattempt hf left net'' hpause ih => exact ih h
  | _ => cases h

end Network

namespace Course

variable {net : Network} {p : RetryPolicy} {r : Request} {hasToken : Bool} {s s' : Course}

/-! ### The verdict -/

/-- What comes of a course in which the token has fired. -/
def verdict (p : RetryPolicy) (s : Course) : Except SendError Response :=
  match s.stage with
  | .underWay o => p.verdict s.made.toNat o
  | .ended result => result
  | .ready | .pausing .. | .overrun => .error (.cancelled s.made.toNat)

/-- The token has fired, so many attempts were made, and the verdict is known. -/
structure Settled (p : RetryPolicy) (attempts : List Attempt) (result : Except SendError Response)
    (s : Course) : Prop where
  fired : s.fired = true
  attempts_eq : s.network.attempts = attempts
  verdict_eq : s.verdict p = result

variable {attempts : List Attempt} {result : Except SendError Response}

/-- No step changes what a fired token has settled. -/
lemma Step.settled (h : Step p r hasToken s s') (hs : s.Settled p attempts result) :
    s'.Settled p attempts result := by
  obtain ⟨hfired, rfl, rfl⟩ := hs
  cases h with
  | attempt | overrun | look | fire => cases hfired
  | answer => exact ⟨hfired, Network.attempts_conclude _ _ _ (.ok _), rfl⟩
  | final hretryable => exact ⟨hfired, rfl, by simp [verdict, RetryPolicy.verdict, hretryable]⟩
  | exhaust hretryable hlast =>
    exact ⟨hfired, rfl, by simp [verdict, RetryPolicy.verdict, hretryable, hlast]⟩
  | pause hretryable hmore =>
    exact ⟨hfired, rfl, by simp [verdict, RetryPolicy.verdict, hretryable, hmore.not_ge]⟩
  | giveUp | pass | wake | listen | see | hear | tell => exact ⟨hfired, rfl, rfl⟩

/-- What a fired token has settled stays so. -/
lemma Reaches.settled (h : Reaches p r hasToken s s') (hs : s.Settled p attempts result) :
    s'.Settled p attempts result := by
  induction h with
  | refl => exact hs
  | tail _ hstep ih => exact hstep.settled ih

/-- The verdict is what is told at an end. -/
lemma verdict_of_ended (h : s.stage = .ended result) : s.verdict p = result := by
  rw [verdict, h]

/-- What sending gives for a cancellation: no attempt begins when the token has fired, what is told
is the verdict on the attempts made, and nothing is given up before the token has fired. -/
lemma exists_verdict_send (net : Network) (p : RetryPolicy) (c : Cancellation) (r : Request) :
    ∃ k, (net.send p c r).2.attempts =
        net.attempts ++ (List.range k).map (net.attemptAfter p r) ∧
      (∀ i < k, c.fired i (net.attemptAfter p r i).time = false) ∧
      (net.send p c r).1 = net.verdict p r k ∧
      ∀ n, (net.send p c r).1 = .error (.cancelled n) →
        c.fired n (net.send p c r).2.now = true := by
  obtain ⟨s, hreaches, hended, hnetwork⟩ := exists_reaches_send net p c r
  have hsound : Sound net p r s := hreaches.sound
  have hattempts := hsound.attempts_eq
  rw [hnetwork] at hattempts
  refine ⟨s.made.toNat, hattempts, fun i hi => ?_, hsound.result_eq hended,
    fun n => Network.fired_of_cancelled⟩
  obtain ⟨new, hnew, hallows⟩ :=
    Network.exists_attempts_sendAfter p c r (p.maxAttempts - 1) 0 net
  have hnew : new = (List.range s.made.toNat).map (net.attemptAfter p r) :=
    List.append_cancel_left (hnew.symm.trans hattempts)
  have hi : new[i]? = some (net.attemptAfter p r i) := by
    rw [hnew, List.getElem?_map, List.getElem?_range hi, Option.map_some]
  simpa using hallows i _ hi

/-! ### Safety -/

/-- Giving up a request is safe at any moment, be it before the first attempt, during an attempt, or
anywhere in a pause. From when the token fires no attempt is made, the course comes to an end
whatever happens, and it ends with the verdict. The number of attempts it tells is that of the
attempts made.

The ends of all courses are what sending gives for the cancellations. There, too, no attempt begins
when the token has fired, what is told is the verdict on the attempts made, and nothing is given up
before the token has fired. -/
theorem safe_after_fire (hs : Reaches p r true (start net) s)
    (hs' : Reaches p r true { s with fired := true } s') :
    s'.network.attempts = s.network.attempts ∧
      (∀ result, s'.stage = .ended result → result = s.verdict p) ∧
      (∀ e, s'.stage = .ended (.error e) →
        s'.network.attempts.length = net.attempts.length + e.attempts) ∧
      (WellFounded fun s₂ s₁ => Step p r true s₁ s₂) ∧
      (∃ s₁, Reaches p r true s' s₁ ∧ s₁.stage = .ended (s.verdict p)) ∧
      (∀ result net', (∃ s₁, Reaches p r true (start net) s₁ ∧ s₁.stage = .ended result ∧
        s₁.network = net') ↔ ∃ c, net.send p c r = (result, net')) ∧
      ∀ c, ∃ k, (net.send p c r).2.attempts =
          net.attempts ++ (List.range k).map (net.attemptAfter p r) ∧
        (∀ i < k, c.fired i (net.attemptAfter p r i).time = false) ∧
        (net.send p c r).1 = net.verdict p r k ∧
        ∀ n, (net.send p c r).1 = .error (.cancelled n) →
          c.fired n (net.send p c r).2.now = true := by
  have hreaches : Reaches p r true (start net) s' := hs.fire.trans hs'
  have hsound : Sound net p r s' := hreaches.sound
  have hsettled : s'.Settled p s.network.attempts (s.verdict p) := hs'.settled ⟨rfl, rfl, rfl⟩
  refine ⟨hsettled.attempts_eq, fun result hended => ?_, fun e hended => ?_,
    wellFounded_step p r true, ?_, fun result net' => ends_iff_send,
    fun c => exists_verdict_send net p c r⟩
  · rw [← hsettled.verdict_eq, verdict_of_ended hended]
  · rw [hsound.attempts_of_ended hended, hsound.attempts_eq]
    simp
  · obtain ⟨s₁, hend, -, result, hended⟩ := hsound.exists_end true
    refine ⟨s₁, hend, ?_⟩
    rw [← (hend.settled hsettled).verdict_eq, verdict_of_ended hended, hended]

/-- The first attempt fails, and the token fires at the very end of the pause after it. It makes no
difference whether the sender hears of it or finds the pause over. -/
theorem safe_after_fire_endOfPause :
    let net := Network.fresh [.error (.connect "down")] .unprepared
    let p := RetryPolicy.ofAttempts 3 (.ofMillis 1000)
    let r := Request.plain .get "https://example.org/health"
    ∃ s heard woken,
      (Reaches p r true (start net) s ∧ s.fired = false ∧ s.network.attempts.length = 1 ∧
        s.stage = .pausing s.network.now (.listening true false)) ∧
      (Reaches p r true { s with fired := true } heard ∧ heard.stage = .ended (s.verdict p) ∧
        heard.network.attempts = s.network.attempts) ∧
      Reaches p r true { s with fired := true } woken ∧ woken.stage = .ended (s.verdict p) ∧
        woken.network.attempts = s.network.attempts := by
  intro net p r
  have hs : Reaches p r true (start net) _ :=
    .head (.attempt (by decide)) <| .head (.pause rfl (by decide)) <| .head (.listen rfl) <|
      .head .look <| .single (.pass (by decide) le_rfl)
  refine ⟨_, _, _, ⟨hs, rfl, rfl, rfl⟩, ⟨.head .tell (.single .hear), rfl, ?_⟩,
    .head (.wake le_rfl) (.single .giveUp), rfl, ?_⟩
  · exact (safe_after_fire hs (.head .tell (.single .hear))).1
  · exact (safe_after_fire hs (.head (.wake le_rfl) (.single .giveUp))).1

end Course

end TagCatalog
