import Mathlib.Logic.Relation
import Mathlib.Tactic
import TagCatalog.Proofs.Exchange.Retrying

/-!
The course of a request, step by step.

`Network.send` says what comes of a request for each time at which it may be given up. Here the same
is told as a course of steps, between any two of which a token may fire. While the sender pauses,
two things are waited for, the end of the pause and the token. Either of them may win when both are
there, and time may pass before either is noticed.

* `Course`: the network, the counter of attempts, the flag of the token and the `Stage`.
* `Course.Step`: all that can come next; `Course.Reaches` is any number of steps.
* `Course.Sound`: what is true at every step, above all that the counter counts the attempts and
  does not run over.
* `Course.Sound.exists_step`, `Course.wellFounded_step`: a course goes on until it ends, which it
  does.
* `Course.ends_iff_send`: the ends of courses are what `Network.send` gives for the cancellations.
-/

namespace TagCatalog

/-! ### Courses -/

/-- How far a pause has come in listening for the token. -/
inductive Watch
  | idle
  /-- Whoever fires the token will tell. Whether the flag was looked at since, and found down, and
  whether the firing was told. -/
  | listening (looked told : Bool)

/-- Whether the firing was told. -/
def Watch.told : Watch → Bool
  | idle => false
  | listening _ told => told

/-- Where the sending of a request stands. -/
inductive Stage
  /-- Another attempt may be made. -/
  | ready
  /-- An attempt is under way, which will have this outcome. -/
  | underWay (outcome : Except Failure Response)
  /-- There is a pause until a time. -/
  | pausing (wake : Nat) (watch : Watch)
  | ended (result : Except SendError Response)
  /-- The counter of attempts has run over. -/
  | overrun

/-- The course of a request at one moment. -/
structure Course where
  network : Network
  /-- The counter of attempts. -/
  made : UInt32
  /-- Whether the token has fired. -/
  fired : Bool
  stage : Stage

namespace Course

/-- Before the first step. -/
def start (net : Network) : Course := ⟨net, 0, false, .ready⟩

/-- All that can come next when a request is sent with or without a token. -/
inductive Step (p : RetryPolicy) (r : Request) (hasToken : Bool) : Course → Course → Prop
  /-- The token has fired before an attempt. -/
  | giveUp {net made} :
    Step p r hasToken ⟨net, made, true, .ready⟩
      ⟨net, made, true, .ended (.error (.cancelled made.toNat))⟩
  | attempt {net made} (hmade : made.toNat + 1 < UInt32.size) :
    Step p r hasToken ⟨net, made, false, .ready⟩
      ⟨(net.attempt r).2, made + 1, false, .underWay (net.attempt r).1⟩
  | overrun {net made} (hmade : UInt32.size ≤ made.toNat + 1) :
    Step p r hasToken ⟨net, made, false, .ready⟩ ⟨net, made, false, .overrun⟩
  /-- A response comes. -/
  | answer {net made fired a} :
    Step p r hasToken ⟨net, made, fired, .underWay (.ok a)⟩
      ⟨net.reportAnswer r made.toNat a, made, fired, .ended (.ok a)⟩
  /-- No other attempt can mend the failure. -/
  | final {net made fired f} (hretryable : f.isRetryable = false) :
    Step p r hasToken ⟨net, made, fired, .underWay (.error f)⟩
      ⟨net.reportFailure "request failed, not retryable" r made.toNat f, made, fired,
        .ended (.error (.final made.toNat f))⟩
  /-- No other attempt is allowed. -/
  | exhaust {net made fired f} (hretryable : f.isRetryable = true)
    (hlast : p.maxAttempts ≤ made.toNat) :
    Step p r hasToken ⟨net, made, fired, .underWay (.error f)⟩
      ⟨net.reportFailure "request failed, retries exhausted" r made.toNat f, made, fired,
        .ended (.error (.exhausted made.toNat f))⟩
  | pause {net made fired f} (hretryable : f.isRetryable = true)
    (hmore : made.toNat < p.maxAttempts) :
    Step p r hasToken ⟨net, made, fired, .underWay (.error f)⟩
      ⟨net.reportRetry r made.toNat (p.delay (made.toNat - 1)) f, made, fired,
        .pausing (net.now + (p.delay (made.toNat - 1)).nanos) .idle⟩
  /-- Time passes, up to the end of the pause. -/
  | pass {net made fired wake watch t} (hlater : net.now < t) (hwake : t ≤ wake) :
    Step p r hasToken ⟨net, made, fired, .pausing wake watch⟩
      ⟨{ net with now := t }, made, fired, .pausing wake watch⟩
  /-- The pause is over. -/
  | wake {net made fired wake watch} (hover : wake ≤ net.now) :
    Step p r hasToken ⟨net, made, fired, .pausing wake watch⟩ ⟨net, made, fired, .ready⟩
  /-- The sender begins to listen for the token. -/
  | listen {net made fired wake} (htoken : hasToken = true) :
    Step p r hasToken ⟨net, made, fired, .pausing wake .idle⟩
      ⟨net, made, fired, .pausing wake (.listening false false)⟩
  /-- The sender looks at the flag, and it is down. -/
  | look {net made wake told} :
    Step p r hasToken ⟨net, made, false, .pausing wake (.listening false told)⟩
      ⟨net, made, false, .pausing wake (.listening true told)⟩
  /-- The sender looks at the flag, and it is up. -/
  | see {net made wake told} :
    Step p r hasToken ⟨net, made, true, .pausing wake (.listening false told)⟩
      ⟨net, made, true, .ended (.error (.cancelled made.toNat))⟩
  /-- The sender hears that the token has fired. -/
  | hear {net made fired wake} :
    Step p r hasToken ⟨net, made, fired, .pausing wake (.listening true true)⟩
      ⟨net, made, fired, .ended (.error (.cancelled made.toNat))⟩
  /-- The token fires, and its flag stays up. -/
  | fire {net made stage} (htoken : hasToken = true) :
    Step p r hasToken ⟨net, made, false, stage⟩ ⟨net, made, true, stage⟩
  /-- A listening sender is told that the token has fired. -/
  | tell {net made wake looked} :
    Step p r hasToken ⟨net, made, true, .pausing wake (.listening looked false)⟩
      ⟨net, made, true, .pausing wake (.listening looked true)⟩

/-- Any number of steps. -/
def Reaches (p : RetryPolicy) (r : Request) (hasToken : Bool) : Course → Course → Prop :=
  Relation.ReflTransGen (Step p r hasToken)

/-- A course with a token goes on with the token fired. -/
lemma Reaches.fire {p : RetryPolicy} {r : Request} {s₀ s : Course} (h : Reaches p r true s₀ s) :
    Reaches p r true s₀ { s with fired := true } := by
  obtain ⟨net, made, fired, stage⟩ := s
  cases fired with
  | false => exact h.tail (.fire rfl)
  | true => exact h

/-! ### What is true of every course -/

/-- What is true of a course at every moment, by the stage it is in. -/
inductive Sound (net : Network) (p : RetryPolicy) (r : Request) : Course → Prop
  | ready {made fired n} (hmade : UInt32.toNat made = n) (hn : n < p.maxAttempts)
    (hfails : net.Fails r n) :
    Sound net p r ⟨net.retried p r n, made, fired, .ready⟩
  | underWay {made fired n o} (hmade : UInt32.toNat made = n + 1) (hn : n < p.maxAttempts)
    (hfails : net.Fails r n) (ho : net.outcome r n = o) :
    Sound net p r ⟨((net.retried p r n).attempt r).2, made, fired, .underWay o⟩
  /-- The time is between the beginning and the end of the pause. -/
  | pausing {made fired n t wake watch} (hmade : UInt32.toNat made = n + 1)
    (hn : n + 1 < p.maxAttempts) (hfails : net.Fails r (n + 1)) (hbegin : net.now + p.slept n ≤ t)
    (hend : t ≤ wake) (hwake : wake = net.now + p.slept (n + 1))
    (htold : watch.told = true → fired = true) :
    Sound net p r ⟨net.paused p r n t, made, fired, .pausing wake watch⟩
  /-- The last attempt has brought what is told. -/
  | concluded {made fired n result} (hmade : UInt32.toNat made = n + 1) (hn : n < p.maxAttempts)
    (hfails : net.Fails r n) (hlast : settles (net.outcome r n) = true ∨ p.maxAttempts = n + 1)
    (hresult : p.verdict (n + 1) (net.outcome r n) = result) :
    Sound net p r ⟨net.concluded p r n, made, fired, .ended result⟩
  | givenUpAtOnce {made} (hmade : UInt32.toNat made = 0) :
    Sound net p r ⟨net, made, true, .ended (.error (.cancelled 0))⟩
  /-- The request was given up in a pause, at its end at the latest. -/
  | givenUp {made n t} (hmade : UInt32.toNat made = n + 1) (hn : n + 1 < p.maxAttempts)
    (hfails : net.Fails r (n + 1)) (hbegin : net.now + p.slept n ≤ t)
    (hend : t ≤ net.now + p.slept (n + 1)) :
    Sound net p r ⟨net.paused p r n t, made, true, .ended (.error (.cancelled (n + 1)))⟩

variable {net : Network} {p : RetryPolicy} {r : Request} {hasToken : Bool} {s s' : Course}

/-- The counter counts as long as it does not run over. -/
lemma toNat_succ {made : UInt32} {n : Nat} (hmade : made.toNat = n) (hn : n + 1 < UInt32.size) :
    (made + 1).toNat = n + 1 := by
  rw [UInt32.toNat_add, hmade]
  exact Nat.mod_eq_of_lt hn

lemma sound_start : Sound net p r (start net) :=
  .ready (n := 0) rfl p.pos fun _ hi => absurd hi (Nat.not_lt_zero _)

lemma Sound.of_last {made : UInt32} (fired : Bool) {n : Nat} {o : Except Failure Response}
    (hmade : made.toNat = n + 1) (hn : n < p.maxAttempts) (hfails : net.Fails r n)
    (ho : net.outcome r n = o) (hlast : settles o = true ∨ p.maxAttempts = n + 1) :
    Sound net p r ⟨((net.retried p r n).attempt r).2.conclude r made.toNat o, made, fired,
      .ended (p.verdict made.toNat o)⟩ := by
  subst ho
  rw [hmade]
  exact .concluded hmade hn hfails hlast rfl

/-- A step keeps what is true of a course. -/
lemma Step.sound (h : Step p r hasToken s s') (hs : Sound net p r s) : Sound net p r s' := by
  cases h with
  | giveUp =>
    cases hs with
    | @ready _ _ n hmade hn hfails =>
    rw [hmade]
    cases n with
    | zero => exact .givenUpAtOnce hmade
    | succ n =>
      -- the last moment of the pause
      rw [← Network.paused_slept_succ]
      exact .givenUp hmade hn hfails (Nat.add_le_add_left (p.slept_le_succ n) _) le_rfl
  | attempt =>
    cases hs with
    | ready hmade hn hfails =>
    have hsucc := toNat_succ hmade (p.succ_lt_size hn)
    exact .underWay hsucc hn hfails (by rw [Network.attempt_retried])
  | overrun hsize =>
    cases hs with
    | ready hmade hn => exact absurd (p.succ_lt_size hn) (hmade ▸ hsize).not_gt
  | answer =>
    cases hs with
    | underWay hmade hn hfails ho => exact .of_last _ hmade hn hfails ho (.inl rfl)
  | @final _ _ fired _ hretryable =>
    cases hs with
    | underWay hmade hn hfails ho =>
    have hlast := Sound.of_last fired hmade hn hfails ho
      (.inl (by rw [settles, hretryable, Bool.not_false]))
    simpa [Network.conclude, RetryPolicy.verdict, hretryable] using hlast
  | @exhaust _ _ fired _ hretryable hmax =>
    cases hs with
    | underWay hmade hn hfails ho =>
    have hlast := Sound.of_last fired hmade hn hfails ho (.inr (by omega))
    simpa [Network.conclude, RetryPolicy.verdict, hretryable, hmax] using hlast
  | pause hretryable hmore =>
    cases hs with
    | @underWay _ _ n _ hmade hn hfails ho =>
    have hnow : ((net.retried p r n).attempt r).2.now = net.now + p.slept n := net.now_retried p r n
    rw [hmade] at hmore ⊢
    rw [Nat.add_sub_cancel, ← Network.retry_retried ho, ← Network.paused_slept, hnow, Nat.add_assoc]
    exact .pausing hmade hmore (hfails.succ ho hretryable) le_rfl
      (Nat.add_le_add_left (p.slept_le_succ n) _) rfl (by simp [Watch.told])
  | pass hlater hwake =>
    cases hs with
    | pausing hmade hn hfails hbegin hend hfinish htold =>
    rw [Network.now_paused] at hlater
    exact .pausing hmade hn hfails (by omega) hwake hfinish htold
  | wake hover =>
    cases hs with
    | pausing hmade hn hfails hbegin hend hfinish htold =>
    rw [le_antisymm hend hover, hfinish, Network.paused_slept_succ]
    exact .ready hmade hn hfails
  | listen htoken =>
    cases hs with
    | pausing hmade hn hfails hbegin hend hfinish htold =>
    exact .pausing hmade hn hfails hbegin hend hfinish (by simp [Watch.told])
  | look =>
    cases hs with
    | pausing hmade hn hfails hbegin hend hfinish htold =>
    exact .pausing hmade hn hfails hbegin hend hfinish htold
  | see =>
    cases hs with
    | pausing hmade hn hfails hbegin hend hfinish htold =>
    rw [hmade]
    exact .givenUp hmade hn hfails hbegin (hfinish ▸ hend)
  | hear =>
    cases hs with
    | pausing hmade hn hfails hbegin hend hfinish htold =>
    rw [hmade, htold rfl]
    exact .givenUp hmade hn hfails hbegin (hfinish ▸ hend)
  | fire htoken =>
    cases hs with
    | ready hmade hn hfails => exact .ready hmade hn hfails
    | underWay hmade hn hfails ho => exact .underWay hmade hn hfails ho
    | pausing hmade hn hfails hbegin hend hfinish =>
      exact .pausing hmade hn hfails hbegin hend hfinish fun _ => rfl
    | concluded hmade hn hfails hlast hresult =>
      exact .concluded hmade hn hfails hlast hresult
  | tell =>
    cases hs with
    | pausing hmade hn hfails hbegin hend hfinish =>
    exact .pausing hmade hn hfails hbegin hend hfinish fun _ => rfl

/-- What is true of every course. -/
theorem Reaches.sound (h : Reaches p r hasToken (start net) s) : Sound net p r s := by
  induction h with
  | refl => exact sound_start
  | tail _ hstep ih => exact hstep.sound ih

/-! ### Coming to an end -/

/-- A course goes on until it ends, even if nobody fires the token. -/
theorem Sound.exists_step (hs : Sound net p r s) (hended : ∀ result, s.stage ≠ .ended result) :
    ∃ s', Step p r hasToken s s' ∧ s'.fired = s.fired := by
  cases hs with
  | @ready made fired n hmade hn hfails =>
    cases fired with
    | true => exact ⟨_, .giveUp, rfl⟩
    | false => exact ⟨_, .attempt (hmade ▸ p.succ_lt_size hn), rfl⟩
  | @underWay made fired n o hmade hn hfails ho =>
    cases o with
    | ok a => exact ⟨_, .answer, rfl⟩
    | error f =>
      cases hf : f.isRetryable with
      | false => exact ⟨_, .final hf, rfl⟩
      | true =>
        obtain hlast | hmore := le_or_gt p.maxAttempts made.toNat
        · exact ⟨_, .exhaust hf hlast, rfl⟩
        · exact ⟨_, .pause hf hmore, rfl⟩
  | pausing hmade hn hfails hbegin hend =>
    obtain hlt | rfl := Nat.lt_or_eq_of_le hend
    · exact ⟨_, .pass hlt le_rfl, rfl⟩
    · exact ⟨_, .wake le_rfl, rfl⟩
  | concluded => exact absurd rfl (hended _)
  | givenUpAtOnce => exact absurd rfl (hended _)
  | givenUp => exact absurd rfl (hended _)

end Course

/-- What a sender has still to do to listen. -/
def Watch.rank : Watch → Nat
  | idle => 3
  | listening looked told => (!looked).toNat + (!told).toNat

/-- How far a stage is from the next attempt or the end. -/
def Stage.rank : Stage → Nat
  | underWay _ => 3
  | pausing .. => 2
  | ready => 1
  | ended _ | overrun => 0

/-- The time that is left of a pause at a time. -/
def Stage.left (now : Nat) : Stage → Nat
  | pausing wake _ => wake - now
  | _ => 0

/-- What a sender in a pause has still to do to listen. -/
def Stage.watchRank : Stage → Nat
  | pausing _ watch => watch.rank
  | _ => 0

namespace Course

/-- What gets less with each step: the attempts left to the counter, the rank of the stage, the time
left of a pause, and what can happen at once. -/
def measure (s : Course) : Nat ×ₗ Nat ×ₗ Nat ×ₗ Nat :=
  toLex (UInt32.size - s.made.toNat, toLex (s.stage.rank, toLex (s.stage.left s.network.now,
    s.stage.watchRank + (!s.fired).toNat)))

lemma Step.measure_lt (h : Step p r hasToken s s') : s'.measure < s.measure := by
  cases h with
  | @attempt _ made hsize =>
    have hless : UInt32.size - (made + 1).toNat < UInt32.size - made.toNat := by
      rw [toNat_succ rfl hsize]
      omega
    exact Prod.Lex.left _ _ hless
  | pass hlater hwake =>
    exact .right _ (.right _ (.left _ _
      (Nat.sub_lt_sub_left (Nat.lt_of_lt_of_le hlater hwake) hlater)))
  | _ =>
    simp [measure, Prod.Lex.toLex_lt_toLex, Stage.rank, Stage.left, Stage.watchRank, Watch.rank]

variable (p r hasToken) in
/-- Every course ends. -/
theorem wellFounded_step : WellFounded fun s' s => Step p r hasToken s s' :=
  Subrelation.wf Step.measure_lt (InvImage.wf measure wellFounded_lt)

variable (hasToken) in
/-- Every course can end without anybody firing the token. -/
theorem Sound.exists_end (hs : Sound net p r s) :
    ∃ s', Reaches p r hasToken s s' ∧ s'.fired = s.fired ∧ ∃ result, s'.stage = .ended result := by
  induction s using (wellFounded_step p r hasToken).induction with
  | _ s ih =>
    by_cases hended : ∃ result, s.stage = .ended result
    · exact ⟨s, .refl, rfl, hended⟩
    · obtain ⟨s₁, hstep, hfired₁⟩ := hs.exists_step (not_exists.1 hended)
      obtain ⟨s₂, hreaches, hfired₂, hend⟩ := ih s₁ hstep (hstep.sound hs)
      exact ⟨s₂, .head hstep hreaches, hfired₂.trans hfired₁, hend⟩

/-! ### What sending gives -/

/-- What is told at the end of a course is what sending gives for some cancellation. -/
lemma Sound.exists_send {result : Except SendError Response} (hs : Sound net p r s)
    (hended : s.stage = .ended result) : ∃ c, net.send p c r = (result, s.network) := by
  cases hs with
  | concluded hmade hn hfails hlast hresult =>
    cases hended
    exact ⟨.never, by rw [Network.send_of_last hfails hn hlast rfl, hresult]⟩
  | givenUpAtOnce hmade =>
    cases hended
    exact ⟨.before, by rw [Network.send, Network.sendAfter]; rfl⟩
  | @givenUp made n t hmade hn hfails hbegin hend =>
    cases hended
    obtain rfl | hlater := Nat.eq_or_lt_of_le hbegin
    · -- at this time the attempt itself was made: only that it was under way tells them apart
      refine ⟨.duringAttempt (n + 1), Network.send_of_interrupt hfails hn ?_ ?_⟩
      · simp [Cancellation.fired]
      · simp [Cancellation.interrupt?, Cancellation.fired]
    · refine ⟨.atTime t, Network.send_of_interrupt hfails hn ?_ ?_⟩
      · simpa [Cancellation.fired] using hlater
      · simp [Cancellation.interrupt?, Cancellation.fired, hlater.not_ge, hend]
  | _ => cases hended

/-- Nobody has fired the token: what is told at the end is what sending gives when nothing is ever
given up. -/
lemma Sound.send_never {result : Except SendError Response} (hs : Sound net p r s)
    (hfired : s.fired = false) (hended : s.stage = .ended result) :
    net.send p .never r = (result, s.network) := by
  cases hs with
  | concluded hmade hn hfails hlast hresult =>
    cases hended
    rw [Network.send_of_last hfails hn hlast rfl, hresult]
  | givenUpAtOnce | givenUp => cases hfired
  | _ => cases hended

lemma Step.attempt_of_eq {net' : Network} {made : UInt32} {n : Nat} {o : Except Failure Response}
    (h : net.attempt r = (o, net')) (hmade : made.toNat = n) (hn : n < p.maxAttempts) :
    Step p r hasToken ⟨net, made, false, .ready⟩ ⟨net', made + 1, false, .underWay o⟩ := by
  have hstep : Step p r hasToken ⟨net, made, false, .ready⟩ _ :=
    .attempt (hmade ▸ p.succ_lt_size hn)
  rwa [h] at hstep

/-- Any time of a pause comes. -/
lemma reaches_pass {made : UInt32} {fired : Bool} {t wake : Nat} {watch : Watch}
    (hbegin : net.now ≤ t) (hend : t ≤ wake) :
    Reaches p r hasToken ⟨net, made, fired, .pausing wake watch⟩
      ⟨{ net with now := t }, made, fired, .pausing wake watch⟩ := by
  obtain rfl | hlater := Nat.eq_or_lt_of_le hbegin
  · exact .refl
  · exact .single (.pass hlater hend)

/-- What `Network.sendAfter` gives is told at the end of a course. -/
lemma exists_reaches_sendAfter (p : RetryPolicy) (c : Cancellation) (r : Request) (left n : Nat)
    (net : Network) {made : UInt32} (hmade : made.toNat = n)
    (hleft : n + 1 + left = p.maxAttempts) :
    ∃ made' fired', Reaches p r true ⟨net, made, c.fired n net.now, .ready⟩
      ⟨(Network.sendAfter p c r left n net).2, made', fired',
        .ended (Network.sendAfter p c r left n net).1⟩ := by
  have hsucc : (made + 1).toNat = n + 1 := toNat_succ hmade (p.succ_lt_size (by omega))
  fun_induction Network.sendAfter p c r left n net generalizing made with
  | case1 left n net hfired =>
    subst hmade
    rw [hfired]
    exact ⟨made, true, .single .giveUp⟩
  | case2 left n net hfired a net' hattempt =>
    rw [Bool.eq_false_of_not_eq_true hfired, ← hsucc]
    exact ⟨made + 1, false, .head (.attempt_of_eq hattempt hmade (by omega)) (.single .answer)⟩
  | case3 n net hfired f net' hattempt hf =>
    rw [Bool.eq_false_of_not_eq_true hfired, ← hsucc]
    exact ⟨made + 1, false, .head (.attempt_of_eq hattempt hmade (by omega))
      (.single (.exhaust hf (by omega)))⟩
  | case4 n net hfired f net' hattempt hf left net'' hpause =>
    obtain ⟨t, hbegin, hend, -, rfl⟩ := Network.exists_of_pause hpause
    rw [Bool.eq_false_of_not_eq_true hfired]
    refine ⟨made + 1, true, .head (.attempt_of_eq hattempt hmade (by omega))
      (.head (.pause hf (by omega)) ?_)⟩
    rw [hsucc, Nat.add_sub_cancel]
    refine (reaches_pass hbegin hend).trans (.head (.fire rfl) (.head (.listen rfl) (.single ?_)))
    rw [← hsucc]
    exact .see
  | case5 n net hfired f net' hattempt hf left net'' hpause ih =>
    obtain ⟨hnot, rfl⟩ := Network.of_pause hpause
    obtain ⟨made', fired', hreaches⟩ := ih hsucc (by omega)
      (toNat_succ hsucc (p.succ_lt_size (by omega)))
    rw [hnot] at hreaches
    rw [Bool.eq_false_of_not_eq_true hfired]
    refine ⟨made', fired', .head (.attempt_of_eq hattempt hmade (by omega))
      (.head (.pause hf (by omega)) ?_)⟩
    rw [hsucc, Nat.add_sub_cancel]
    exact (reaches_pass (Nat.le_add_right ..) le_rfl).trans (.head (.wake le_rfl) hreaches)
  | case6 left n net hfired f net' hattempt hf =>
    rw [Bool.eq_false_of_not_eq_true hfired, ← hsucc]
    exact ⟨made + 1, false, .head (.attempt_of_eq hattempt hmade (by omega))
      (.single (.final (Bool.eq_false_of_not_eq_true hf)))⟩

/-- What sending gives for a cancellation is told at the end of a course with a token. -/
lemma exists_reaches_send (net : Network) (p : RetryPolicy) (c : Cancellation) (r : Request) :
    ∃ s, Reaches p r true (start net) s ∧ s.stage = .ended (net.send p c r).1 ∧
      s.network = (net.send p c r).2 := by
  obtain ⟨made, fired, hreaches⟩ := exists_reaches_sendAfter p c r (p.maxAttempts - 1) 0 net
    UInt32.toNat_zero (by have := p.pos; omega)
  cases hfired : c.fired 0 net.now with
  | false => exact ⟨_, hfired ▸ hreaches, rfl, rfl⟩
  | true => exact ⟨_, .trans (Reaches.fire .refl) (hfired ▸ hreaches), rfl, rfl⟩

/-- The ends of the courses with a token are what sending gives for the cancellations. -/
theorem ends_iff_send {result : Except SendError Response} {net' : Network} :
    (∃ s, Reaches p r true (start net) s ∧ s.stage = .ended result ∧ s.network = net') ↔
      ∃ c, net.send p c r = (result, net') := by
  constructor
  · rintro ⟨s, hreaches, hended, rfl⟩
    exact hreaches.sound.exists_send hended
  · rintro ⟨c, hsend⟩
    obtain ⟨s, hreaches, hended, hnetwork⟩ := exists_reaches_send net p c r
    rw [hsend] at hended hnetwork
    exact ⟨s, hreaches, hended, hnetwork⟩

variable (net p r hasToken) in
/-- A course in which nobody fires the token can end, and ends with what sending gives when nothing
is ever given up. -/
theorem exists_end_send_never :
    ∃ s, Reaches p r hasToken (start net) s ∧ s.fired = false ∧
      s.stage = .ended (net.send p .never r).1 ∧ s.network = (net.send p .never r).2 := by
  have hstart : Sound net p r (start net) := sound_start
  obtain ⟨s, hreaches, hfired, result, hended⟩ := hstart.exists_end hasToken
  have hsound : Sound net p r s := hreaches.sound
  refine ⟨s, hreaches, hfired, ?_⟩
  rw [hsound.send_never hfired hended]
  exact ⟨hended, rfl⟩

end Course

end TagCatalog
