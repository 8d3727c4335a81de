import TagCatalog.Proofs.Exchange.Course

/-!
Sending a request does what the policy says.

* `Course.Sound.attempts_eq`: at every moment of a course the counter tells the attempts made.
* `Network.send_follows_policy`: the first response, or the first failure that no other attempt can
  mend, is what sending gives; otherwise it gives the failure of the last attempt that is allowed. A
  token that never fires makes no difference.
-/

namespace TagCatalog

namespace Course

variable {net : Network} {p : RetryPolicy} {r : Request} {hasToken : Bool} {s s' : Course}

/-! ### The counter -/

/-- As many attempts were made as the counter says, each at its time and with the same request. -/
theorem Sound.attempts_eq (hs : Sound net p r s) :
    s.network.attempts =
      net.attempts ++ (List.range s.made.toNat).map (net.attemptAfter p r) := by
  cases hs with
  | ready hmade => simp only [hmade, Network.attempts_retried]
  | underWay hmade =>
    simp [hmade, Network.attempts_attempt_retried, Network.attempts_retried, List.range_succ]
  | pausing hmade => simp only [hmade, Network.attempts_paused]
  | concluded hmade => simp only [hmade, Network.attempts_concluded]
  | givenUpAtOnce hmade => simp [hmade]
  | givenUp hmade => simp only [hmade, Network.attempts_paused]

/-- What is told at an end is the verdict on the attempts that were made. -/
lemma Sound.result_eq {result : Except SendError Response} (hs : Sound net p r s)
    (hended : s.stage = .ended result) : result = net.verdict p r s.made.toNat := by
  cases hs with
  | concluded hmade _ _ _ hresult =>
    cases hended
    rw [hmade, Network.verdict, hresult]
  | givenUpAtOnce hmade =>
    cases hended
    rw [hmade, Network.verdict]
  | givenUp hmade hn hfails =>
    cases hended
    obtain ⟨f, ho, hf⟩ := hfails.exists_failure
    rw [hmade, Network.verdict, ho, RetryPolicy.verdict, if_pos hf, if_neg hn.not_ge]
  | _ => cases hended

/-- The number of attempts that an error tells is that of the attempts made. -/
lemma attempts_of_verdict {n : Nat} {e : SendError} (h : net.verdict p r n = .error e) :
    e.attempts = n := by
  cases n with
  | zero => cases h; rfl
  | succ n =>
    rw [Network.verdict] at h
    cases ho : net.outcome r n with
    | ok a => rw [ho] at h; cases h
    | error f =>
      rw [ho] at h
      cases h
      split_ifs <;> rfl

/-- The number of attempts that an error tells is that of the counter. -/
lemma Sound.attempts_of_ended {e : SendError} (hs : Sound net p r s)
    (hended : s.stage = .ended (.error e)) : e.attempts = s.made.toNat :=
  attempts_of_verdict (hs.result_eq hended).symm

/-- The counter does not run over. -/
lemma Sound.stage_ne_overrun (hs : Sound net p r s) : s.stage ≠ .overrun := by
  cases hs <;> nofun

/-- Without a token, none fires. -/
lemma Reaches.not_fired (h : Reaches p r false s s') (hs : s.fired = false) :
    s'.fired = false := by
  induction h with
  | refl => exact hs
  | tail _ hstep ih =>
    cases hstep with
    | fire htoken => cases htoken
    | _ => exact ih

end Course

/-! ### Sending -/

/-- Sending a request follows the policy. If attempts fail until one settles the request and is
still allowed, the request ends with it. If all attempts that are allowed fail, it ends with the
failure of the last. The attempts are made one pause after another, all with the same request, and
nothing is waited for after the last.

A sender with or without a token comes to an end, its counter of 32 bits tells how many attempts
were made, and if no token fires then what it ends with is just this. -/
theorem Network.send_follows_policy (p : RetryPolicy) (net : Network) (r : Request) :
    (∀ n < p.maxAttempts, net.Fails r n → settles (net.outcome r n) = true →
      (net.send p .never r).1 = (net.outcome r n).mapError (.final (n + 1)) ∧
      (net.send p .never r).2.attempts =
        net.attempts ++ (List.range (n + 1)).map (net.attemptAfter p r) ∧
      (net.send p .never r).2.now = net.now + p.slept n) ∧
    (net.Fails r p.maxAttempts →
      (∃ f, net.outcome r (p.maxAttempts - 1) = .error f ∧
        (net.send p .never r).1 = .error (.exhausted p.maxAttempts f)) ∧
      (net.send p .never r).2.attempts =
        net.attempts ++ (List.range p.maxAttempts).map (net.attemptAfter p r) ∧
      (net.send p .never r).2.now = net.now + p.slept (p.maxAttempts - 1)) ∧
    ∀ hasToken,
      (WellFounded fun s' s => Course.Step p r hasToken s s') ∧
      (∃ s, Course.Reaches p r hasToken (.start net) s ∧ s.fired = false ∧
        s.stage = .ended (net.send p .never r).1) ∧
      ∀ s, Course.Reaches p r hasToken (.start net) s →
        s.stage ≠ .overrun ∧
        s.network.attempts.length = net.attempts.length + s.made.toNat ∧
        ∀ result, s.stage = .ended result → (hasToken = true → s.fired = false) →
          net.send p .never r = (result, s.network) := by
  refine ⟨fun n hn hfails hsettles => ?_, fun hfails => ?_, fun hasToken => ⟨?_, ?_, ?_⟩⟩
  · have hsend := send_of_last (c := .never) hfails hn (.inl hsettles) rfl
    refine ⟨?_, by rw [hsend, attempts_concluded], by rw [hsend, now_concluded]⟩
    rw [hsend]
    cases ho : net.outcome r n with
    | ok a => rfl
    | error f =>
      have hf : f.isRetryable = false := by simpa [ho, settles] using hsettles
      simp [RetryPolicy.verdict, Except.mapError, hf]
  · obtain ⟨n, hmax⟩ : ∃ n, p.maxAttempts = n + 1 := Nat.exists_eq_add_one.2 p.pos
    rw [hmax] at hfails ⊢
    obtain ⟨f, ho, hf⟩ := hfails.exists_failure
    have hsend := send_of_last (c := .never) hfails.of_succ (by omega) (.inr hmax) rfl
    refine ⟨⟨f, ho, ?_⟩, by rw [hsend, attempts_concluded], by rw [hsend, now_concluded]; rfl⟩
    simp [hsend, RetryPolicy.verdict, ho, hf, hmax]
  · exact Course.wellFounded_step p r hasToken
  · obtain ⟨s, hreaches, hfired, hended, -⟩ := Course.exists_end_send_never net p r hasToken
    exact ⟨s, hreaches, hfired, hended⟩
  · intro s hreaches
    have hs := hreaches.sound
    refine ⟨hs.stage_ne_overrun, by simp [hs.attempts_eq], fun result hended hnever => ?_⟩
    refine hs.send_never ?_ hended
    cases hasToken with
    | false => exact hreaches.not_fired rfl
    | true => exact hnever rfl

end TagCatalog
