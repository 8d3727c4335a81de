import TagCatalog.Proofs.Exchange.Course

/-!
Sending a request that adds something over a connection that loses some attempts.

* `Keeper`: a service with a state; `Keeper.Honest` says that its answers tell what it does.
* `Fate`: what becomes of an attempt. `Keeper.after` is the state that attempts leave behind, and
  `Keeper.meets` what each of them meets with.
* `Keeper.Honest.holds_after_mono`: what is there stays there, whatever is lost.
* `Keeper.Honest.grants_unique`: no two attempts are granted.
* `Keeper.exists_ends`: which attempt is the last, and what is told.
* `Keeper.Honest.holds_of_answer`, `Keeper.Honest.not_holds_of_success`,
  `Keeper.Honest.holds_iff_of_exhausted`: what answers and failures say of the state.

Nobody but the sender changes the state, so that it is a function of the fates alone. There is no
attempt after an answer, so that what the answer tells of the state is still true in the end.
-/

namespace TagCatalog

/-! ### Services that keep something -/

/-- A service that keeps things, some of which it may be asked to add. -/
structure Keeper (σ ι : Type) where
  /-- The answer to a request in a state, and the state after it. -/
  receive : σ → Request → Response × σ
  /-- What is there in a state. -/
  holds : σ → ι → Prop
  /-- What a request asks to add. -/
  adds : Request → ι → Prop

/-- What becomes of an attempt. -/
inductive Fate
  /-- It does not reach the service. -/
  | lost (f : Failure)
  /-- It reaches the service, the answer of which is lost. -/
  | unheard (f : Failure)
  | heard

/-- Whether an attempt reaches the service. -/
def Fate.reaches : Fate → Bool
  | lost _ => false
  | unheard _ | heard => true

variable {σ ι : Type}

namespace Keeper

/-- The answers tell what is done: success if something is added that was not there, a conflict if
it was there, and anything else if it is refused. -/
structure Honest (k : Keeper σ ι) : Prop where
  isSuccess_iff {s : σ} {r : Request} {x : ι} (hx : k.adds r x) :
    (k.receive s r).1.isSuccess = true ↔ ¬ k.holds s x ∧ k.holds (k.receive s r).2 x
  isConflict_iff {s : σ} {r : Request} {x : ι} (hx : k.adds r x) :
    (k.receive s r).1.isConflict = true ↔ k.holds s x
  /-- An addition takes nothing away. -/
  holds_receive {s : σ} {r : Request} {x : ι} (hx : k.adds r x) (h : k.holds s x) :
    k.holds (k.receive s r).2 x

variable (k : Keeper σ ι) (s : σ) (r : Request) (fates : Nat → Fate)

/-- The state after the first `n` attempts at a request, if nobody else asks for anything. -/
def after : Nat → σ
  | 0 => s
  | n + 1 => if (fates n).reaches then (k.receive (after n) r).2 else after n

/-- What the attempt after `n` others meets with. -/
def meets (n : Nat) : Except Failure Response :=
  match fates n with
  | .lost f | .unheard f => .error f
  | .heard => .ok (k.receive (k.after s r fates n) r).1

/-- The service does what the attempt after `n` others asks for. -/
def Grants (n : Nat) : Prop :=
  (fates n).reaches = true ∧ (k.receive (k.after s r fates n) r).1.isSuccess = true

/-- The service stands behind attempts: each meets with what the service answers, or with what
becomes of it on the way. -/
def Behind (attempts : List Attempt) : Prop :=
  ∀ i a, attempts[i]? = some a → a.outcome = k.meets s r fates i

/-- The attempt after `n` others is the last that a policy makes: all before it fail, and it settles
the request or is the last that is allowed. -/
structure Ends (p : RetryPolicy) (n : Nat) : Prop where
  lt : n < p.maxAttempts
  fails : ∀ i < n, settles (k.meets s r fates i) = false
  last : settles (k.meets s r fates n) = true ∨ p.maxAttempts = n + 1

variable {k s r fates} {x : ι} {n : Nat}

/-- An answer is that of the service in the state that was reached. -/
lemma of_meets_ok {a : Response} (h : k.meets s r fates n = .ok a) :
    fates n = .heard ∧ (k.receive (k.after s r fates n) r).1 = a := by
  unfold meets at h
  split at h <;> cases h
  case h_3 hfate => exact ⟨hfate, rfl⟩

lemma after_succ_of_reaches (h : (fates n).reaches = true) :
    k.after s r fates (n + 1) = (k.receive (k.after s r fates n) r).2 := if_pos h

/-- Attempts that do not reach the service change nothing. -/
lemma after_eq_of_not_reaches (h : ∀ i < n, (fates i).reaches = false) :
    k.after s r fates n = s := by
  induction n with
  | zero => rfl
  | succ n ih =>
    rw [after, h n (Nat.lt_succ_self n), if_neg Bool.false_ne_true]
    exact ih fun i hi => h i (Nat.lt_succ_of_lt hi)

/-! ### What attempts leave behind -/

namespace Honest

variable (hk : k.Honest) (hx : k.adds r x)
include hk hx

/-- An attempt takes nothing away, whatever becomes of it. -/
lemma holds_after_succ (h : k.holds (k.after s r fates n) x) :
    k.holds (k.after s r fates (n + 1)) x := by
  rw [after]
  split
  · exact hk.holds_receive hx h
  · exact h

/-- What is there after some attempts is there after all later ones. -/
lemma holds_after_mono {m : Nat} (hmn : m ≤ n) (h : k.holds (k.after s r fates m) x) :
    k.holds (k.after s r fates n) x := by
  induction n, hmn using Nat.le_induction with
  | base => exact h
  | succ n _ ih => exact hk.holds_after_succ hx ih

/-- An attempt is granted if and only if it adds something that was not there. -/
lemma grants_iff : k.Grants s r fates n ↔
    ¬ k.holds (k.after s r fates n) x ∧ k.holds (k.after s r fates (n + 1)) x := by
  rw [Grants, hk.isSuccess_iff hx, after]
  split <;> simp_all

/-- At most one attempt is granted: what it adds is there when a later one comes. -/
lemma grants_unique {i j : Nat} (hi : k.Grants s r fates i) (hj : k.Grants s r fates j) :
    i = j := by
  rw [hk.grants_iff hx] at hi hj
  by_contra hne
  obtain hlt | hgt := Nat.lt_or_gt_of_ne hne
  · exact hj.1 (hk.holds_after_mono hx hlt hi.2)
  · exact hi.1 (hk.holds_after_mono hx hgt hj.2)

/-- If every attempt that reaches the service leaves it there, then it is there in the end just when
it was there in the beginning or an attempt has reached the service. -/
lemma holds_after_iff
    (hleft : ∀ i < n, (fates i).reaches = true → k.holds (k.after s r fates (i + 1)) x) :
    k.holds (k.after s r fates n) x ↔ k.holds s x ∨ ∃ i < n, (fates i).reaches = true := by
  constructor
  · intro h
    by_cases hreaches : ∃ i < n, (fates i).reaches = true
    · exact .inr hreaches
    · push Not at hreaches
      rw [after_eq_of_not_reaches fun i hi => Bool.eq_false_of_not_eq_true (hreaches i hi)] at h
      exact .inl h
  · rintro (h | ⟨i, hi, hreaches⟩)
    · exact hk.holds_after_mono hx (Nat.zero_le n) h
    · exact hk.holds_after_mono hx hi (hleft i hi hreaches)

/-- An answer that tells of a conflict or of success means that it is there. -/
lemma holds_of_answer {a : Response} (h : k.meets s r fates n = .ok a)
    (ha : a.isConflict = true ∨ a.isSuccess = true) : k.holds (k.after s r fates (n + 1)) x := by
  obtain ⟨hheard, rfl⟩ := of_meets_ok h
  rw [after_succ_of_reaches (by rw [hheard, Fate.reaches])]
  obtain hconflict | hsuccess := ha
  · exact hk.holds_receive hx ((hk.isConflict_iff hx).1 hconflict)
  · exact ((hk.isSuccess_iff hx).1 hsuccess).2

/-- An answer that tells of success means that it was not there in the beginning. -/
lemma not_holds_of_success {a : Response} (h : k.meets s r fates n = .ok a)
    (ha : a.isSuccess = true) : ¬ k.holds s x := by
  obtain ⟨-, rfl⟩ := of_meets_ok h
  exact fun hs => ((hk.isSuccess_iff hx).1 ha).1 (hk.holds_after_mono hx (Nat.zero_le n) hs)

end Honest

end Keeper

/-! ### Sending -/

/-- A request that is never given up ends with the verdict on the last attempt, before which all
failed. -/
lemma Network.exists_last_send {net : Network} {p : RetryPolicy} {r : Request}
    {attempts : List Attempt}
    (hattempts : (net.send p .never r).2.attempts = net.attempts ++ attempts) :
    ∃ n < p.maxAttempts, net.Fails r n ∧
      (settles (net.outcome r n) = true ∨ p.maxAttempts = n + 1) ∧
      (net.send p .never r).1 = p.verdict (n + 1) (net.outcome r n) ∧
      attempts = (List.range (n + 1)).map (net.attemptAfter p r) := by
  obtain ⟨s, hreaches, hfired, hended, hnetwork⟩ := Course.exists_end_send_never net p r false
  have hsound : Course.Sound net p r s := hreaches.sound
  cases hsound with
  | @concluded _ _ n _ _ hn hfails hlast hresult =>
    cases hended
    rw [← hnetwork, attempts_concluded] at hattempts
    exact ⟨n, hn, hfails, hlast, hresult.symm, (List.append_cancel_left hattempts).symm⟩
  | givenUpAtOnce | givenUp => cases hfired
  | _ => cases hended

/-- What is answered in the end is the answer to the last attempt. -/
lemma RetryPolicy.outcome_of_answer {p : RetryPolicy} {n : Nat} {o : Except Failure Response}
    {a : Response} (h : p.verdict n o = .ok a) : o = .ok a := by
  cases o with
  | ok b => cases h; rfl
  | error f => cases h

/-- The last attempt fails, too, if the request ends because no other is allowed. -/
lemma RetryPolicy.not_settles_of_exhausted {p : RetryPolicy} {m n : Nat}
    {o : Except Failure Response} {f : Failure} (h : p.verdict n o = .error (.exhausted m f)) :
    m = n ∧ settles o = false := by
  cases o with
  | ok a => cases h
  | error f' =>
    rw [verdict] at h
    split_ifs at h with hf hmax <;> cases h
    exact ⟨rfl, by rw [settles, hf, Bool.not_true]⟩

namespace Keeper

variable {k : Keeper σ ι} {s : σ} {r : Request} {fates : Nat → Fate} {x : ι} {n : Nat}
  {net : Network} {p : RetryPolicy} {attempts : List Attempt}

/-- The service stands behind the attempts that are made if it does behind all that are allowed. -/
lemma behind_of_outcomes
    (hattempts : (net.send p .never r).2.attempts = net.attempts ++ attempts)
    (h : ∀ i < p.maxAttempts, net.outcome r i = k.meets s r fates i) :
    k.Behind s r fates attempts := by
  obtain ⟨n, hn, -, -, -, rfl⟩ := Network.exists_last_send hattempts
  intro i a ha
  rw [List.getElem?_map, Option.map_eq_some_iff] at ha
  obtain ⟨j, hj, rfl⟩ := ha
  obtain ⟨hi, rfl⟩ := List.getElem?_eq_some_iff.1 hj
  rw [List.length_range] at hi
  rw [List.getElem_range]
  exact h i (Nat.lt_of_lt_of_le hi hn)

/-- What comes of a request when the service stands behind the attempts: the losses decide which of
them is the last, and what is told is the verdict on it. -/
theorem exists_ends (hattempts : (net.send p .never r).2.attempts = net.attempts ++ attempts)
    (hbehind : k.Behind s r fates attempts) :
    ∃ n, k.Ends s r fates p n ∧ attempts.length = n + 1 ∧ (∀ a ∈ attempts, a.request = r) ∧
      (net.send p .never r).1 = p.verdict (n + 1) (k.meets s r fates n) := by
  obtain ⟨n, hn, hfails, hlast, hsend, rfl⟩ := Network.exists_last_send hattempts
  have hmeets : ∀ i < n + 1, net.outcome r i = k.meets s r fates i := fun i hi =>
    hbehind i (net.attemptAfter p r i) (by rw [List.getElem?_map, List.getElem?_range hi]; rfl)
  rw [hmeets n (Nat.lt_succ_self n)] at hlast hsend
  refine ⟨n, ⟨hn, fun i hi => ?_, hlast⟩, by simp, fun a ha => ?_, hsend⟩
  · rw [← hmeets i (Nat.lt_succ_of_lt hi)]
    exact hfails i hi
  · obtain ⟨i, -, rfl⟩ := List.mem_map.1 ha
    rfl

/-- An attempt that fails and yet reaches the service is one of which the answer is lost. -/
lemma exists_unheard (h : settles (k.meets s r fates n) = false)
    (hreaches : (fates n).reaches = true) : ∃ f, fates n = .unheard f := by
  cases hfate : fates n with
  | lost f => rw [hfate, Fate.reaches] at hreaches; cases hreaches
  | unheard f => exact ⟨f, rfl⟩
  | heard => rw [meets, hfate] at h; cases h

/-- After as many failures as are allowed, what a request asks to add is there just when it was
there before or an attempt has reached the service, if every such attempt leaves it there. -/
theorem Honest.holds_iff_of_exhausted (hk : k.Honest) (hx : k.adds r x)
    (hends : k.Ends s r fates p n)
    (happlied : ∀ i ≤ n, ∀ f, fates i = .unheard f → k.holds (k.after s r fates (i + 1)) x)
    {m : Nat} {f : Failure}
    (hexhausted : p.verdict (n + 1) (k.meets s r fates n) = .error (.exhausted m f)) :
    m = n + 1 ∧ (k.holds (k.after s r fates (n + 1)) x ↔
      k.holds s x ∨ ∃ i ≤ n, (fates i).reaches = true) := by
  obtain ⟨rfl, hlast⟩ := RetryPolicy.not_settles_of_exhausted hexhausted
  have hfails : ∀ i ≤ n, settles (k.meets s r fates i) = false := fun i hi => by
    obtain hlt | rfl := Nat.lt_or_eq_of_le hi
    · exact hends.fails i hlt
    · exact hlast
  simp only [← Nat.lt_succ_iff] at happlied hfails ⊢
  refine ⟨trivial, hk.holds_after_iff hx fun i hi hreaches => ?_⟩
  obtain ⟨f, hunheard⟩ := exists_unheard (hfails i hi) hreaches
  exact happlied i hi f hunheard

end Keeper

end TagCatalog
