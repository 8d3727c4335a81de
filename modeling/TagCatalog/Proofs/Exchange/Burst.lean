import Mathlib.Tactic
import TagCatalog.Exchange.Network

/-!
The attempts that are made for one request.

* `Burst`: all of them fail, or all but the last, which is answered.
* `Network.exists_burst_send`: sending a request adds one such burst to the attempts made, and adds
  nothing only if the request was given up beforehand.
-/

namespace TagCatalog

/-- Attempts at a request, and what is told of it in the end. -/
inductive Burst (r : Request) : List Attempt → Except SendError Response → Prop
  /-- No attempt was answered. -/
  | failed {l : List Attempt} {e : SendError}
      (h : ∀ a ∈ l, a.request = r ∧ ∃ f, a.outcome = .error f) : Burst r l (.error e)
  /-- The last attempt was answered. -/
  | answered {l : List Attempt} {t : Nat} {answer : Response}
      (h : ∀ a ∈ l, a.request = r ∧ ∃ f, a.outcome = .error f) :
      Burst r (l ++ [⟨t, r, .ok answer⟩]) (.ok answer)

namespace Burst

variable {r : Request} {l : List Attempt} {result : Except SendError Response}

/-- Every attempt is one at the request. -/
lemma request_eq (h : Burst r l result) : ∀ a ∈ l, a.request = r := by
  cases h with
  | failed h => exact fun a ha => (h a ha).1
  | answered h =>
    intro a ha
    rw [List.mem_append, List.mem_singleton] at ha
    obtain ha | rfl := ha
    · exact (h a ha).1
    · rfl

/-- One more failure before the others. -/
lemma cons {t : Nat} {f : Failure} (h : Burst r l result) :
    Burst r (⟨t, r, .error f⟩ :: l) result := by
  have hfirst {l : List Attempt} (h : ∀ a ∈ l, a.request = r ∧ ∃ f, a.outcome = .error f) :
      ∀ a ∈ (⟨t, r, .error f⟩ :: l : List Attempt), a.request = r ∧ ∃ f, a.outcome = .error f :=
    List.forall_mem_cons.2 ⟨⟨rfl, f, rfl⟩, h⟩
  cases h with
  | failed h => exact .failed (hfirst h)
  | answered h =>
    rw [← List.cons_append]
    exact .answered (hfirst h)

/-- A failure alone. -/
lemma single (t : Nat) (f : Failure) (e : SendError) : Burst r [⟨t, r, .error f⟩] (.error e) :=
  cons (.failed (by simp))

end Burst

namespace Network

/-- An attempt is recorded. -/
lemma attempts_of_attempt {net net' : Network} {r : Request} {o : Except Failure Response}
    (h : net.attempt r = (o, net')) : net'.attempts = net.attempts ++ [⟨net.now, r, o⟩] := by
  cases h
  rfl

/-- No attempt is made in a pause. -/
lemma attempts_of_pause {net net' : Network} {c : Cancellation} {n : Nat} {d : Duration} {b : Bool}
    (h : net.pause c n d = (b, net')) : net'.attempts = net.attempts := by
  rw [pause] at h
  split at h <;> cases h <;> rfl

/-- Logging an answer leaves the attempts as they are. -/
@[simp] lemma attempts_reportAnswer (net : Network) (r : Request) (n : Nat) (a : Response) :
    (net.reportAnswer r n a).attempts = net.attempts := by
  rw [reportAnswer]
  split <;> rfl

/-- From any point on, what is added to the attempts is one burst, which is empty only if the
request was given up by then. -/
lemma exists_burst_sendAfter (p : RetryPolicy) (c : Cancellation) (r : Request) (left made : Nat)
    (net : Network) :
    ∃ l, Burst r l (sendAfter p c r left made net).1 ∧
      (sendAfter p c r left made net).2.attempts = net.attempts ++ l ∧
      (c.fired made net.now = false → l ≠ []) := by
  fun_induction sendAfter p c r left made net with
  | case1 left made net hfired =>
    refine ⟨[], .failed (by simp), (List.append_nil _).symm, fun h => ?_⟩
    rw [hfired] at h
    cases h
  | case2 left made net _ a net' ha =>
    have hmade := attempts_of_attempt ha
    refine ⟨[⟨net.now, r, .ok a⟩], Burst.answered (l := []) (by simp), ?_, fun _ => by simp⟩
    rw [attempts_reportAnswer, hmade]
  | case3 made net _ f net' ha =>
    have hmade := attempts_of_attempt ha
    exact ⟨[⟨net.now, r, .error f⟩], .single _ _ _, hmade, fun _ => by simp⟩
  | case4 made net _ f net' ha _ left net'' hpause =>
    have hmade := attempts_of_attempt ha
    refine ⟨[⟨net.now, r, .error f⟩], .single _ _ _, ?_, fun _ => by simp⟩
    rw [attempts_of_pause hpause]
    exact hmade
  | case5 made net _ f net' ha _ left net'' hpause ih =>
    have hmade := attempts_of_attempt ha
    obtain ⟨l, hburst, hl, -⟩ := ih
    refine ⟨⟨net.now, r, .error f⟩ :: l, hburst.cons, ?_, fun _ => by simp⟩
    rw [hl, attempts_of_pause hpause]
    exact (congrArg (· ++ l) hmade).trans (List.append_cons ..).symm
  | case6 left made net _ f net' ha =>
    have hmade := attempts_of_attempt ha
    exact ⟨[⟨net.now, r, .error f⟩], .single _ _ _, hmade, fun _ => by simp⟩

/-- Sending a request adds one burst to the attempts, which is empty only if the request was given
up beforehand. -/
theorem exists_burst_send (net : Network) (p : RetryPolicy) (c : Cancellation) (r : Request) :
    ∃ l, Burst r l (net.send p c r).1 ∧ (net.send p c r).2.attempts = net.attempts ++ l ∧
      (c.fired 0 net.now = false → l ≠ []) :=
  exists_burst_sendAfter p c r _ 0 net

end Network

end TagCatalog
