import TagCatalog.Exchange.Failure
import TagCatalog.Exchange.Message
import TagCatalog.Exchange.RetryPolicy
import TagCatalog.Log

/-!
Sending requests, again and again where that may help.

* `Network`: the outcomes that attempts will have, in order, and what was attempted so far. Time
  passes in the pauses between attempts alone.
* `Cancellation`: when a request is given up.
* `Network.send`: an attempt, and after each failure that another attempt may mend a pause and
  another attempt, as often as the policy allows. Any response is an answer, whatever its status.
* `length_outcomes_send_lt`: a success uses up an outcome.
-/

namespace TagCatalog

/-! ### Giving up -/

/-- When a request is given up. What has been given up stays so. -/
inductive Cancellation
  | never
  /-- Before the first attempt. -/
  | before
  /-- During an attempt, counted from one. -/
  | duringAttempt (n : Nat)
  /-- At a time, in nanoseconds. -/
  | atTime (t : Nat)
  deriving Repr, DecidableEq

namespace Cancellation

/-- Whether a request is given up by a time at which so many attempts were made. -/
def fired (c : Cancellation) (made now : Nat) : Bool :=
  match c with
  | never => false
  | before => true
  | duringAttempt n => 0 < n && n ≤ made
  | atTime t => t ≤ now

/-- The time at which a pause ends early, if it does. -/
def interrupt? (c : Cancellation) (made now wake : Nat) : Option Nat :=
  if c.fired made now then some now
  else match c with
    | atTime t => if t ≤ wake then some t else none
    | _ => none

end Cancellation

/-! ### Networks -/

/-- What attempts meet with when no outcomes are left for them. -/
inductive Fallback
  /-- The service has no answer prepared. -/
  | unprepared
  /-- No response comes. -/
  | failing (why : Request → Failure)

/-- The outcome of an attempt for which none is left. -/
def Fallback.outcome : Fallback → Request → Except Failure Response
  | unprepared, _ => .ok .unprepared
  | failing why, r => .error (why r)

/-- An attempt that was made. -/
structure Attempt where
  /-- When it was made, in nanoseconds. -/
  time : Nat
  request : Request
  outcome : Except Failure Response

/-- The way to the service. -/
structure Network where
  /-- The outcomes of the attempts to come. -/
  outcomes : List (Except Failure Response)
  /-- What attempts meet with afterwards. -/
  fallback : Fallback
  /-- The time, in nanoseconds. -/
  now : Nat
  /-- The attempts made, the first first. -/
  attempts : List Attempt
  /-- What was logged, the first first. -/
  log : List LogEvent

namespace Network

/-- A network that nothing has been sent through. -/
def fresh (outcomes : List (Except Failure Response)) (fallback : Fallback) : Network :=
  ⟨outcomes, fallback, 0, [], []⟩

instance : Inhabited Network := ⟨fresh [] .unprepared⟩

/-- Logs an event. -/
def note (net : Network) (e : LogEvent) : Network := { net with log := net.log ++ [e] }

/-- Makes one attempt. -/
def attempt (net : Network) (r : Request) : Except Failure Response × Network :=
  let outcome := net.outcomes.head?.getD (net.fallback.outcome r)
  (outcome, { net with
    outcomes := net.outcomes.tail
    attempts := net.attempts ++ [⟨net.now, r, outcome⟩] })

/-- Lets time pass, and tells whether the request was given up before its end. -/
def pause (net : Network) (c : Cancellation) (made : Nat) (d : Duration) : Bool × Network :=
  match c.interrupt? made net.now (net.now + d.nanos) with
  | some t => (true, { net with now := t })
  | none => (false, { net with now := net.now + d.nanos })

/-- Logs something about sending a request. -/
def report (net : Network) (level : LogLevel) (message : String) (r : Request)
    (fields : List (String × String)) : Network :=
  net.note ⟨level, "tagstorm::transport", message,
    ("method", r.method.name) :: ("url", r.url) :: fields⟩

/-- Logs that a request was answered, if not at once. -/
def reportAnswer (net : Network) (r : Request) (attempts : Nat) (a : Response) : Network :=
  if attempts = 1 then net
  else net.report .debug "request succeeded after retry" r
    [("attempts", toString attempts), ("status", toString a.status)]

/-- Logs that there will be no other attempt. -/
def reportFailure (net : Network) (message : String) (r : Request) (attempts : Nat) (f : Failure) :
    Network :=
  net.report .error message r [("attempts", toString attempts), ("error", f.message)]

/-- Logs that there will be another attempt after a pause. -/
def reportRetry (net : Network) (r : Request) (attempt : Nat) (d : Duration) (f : Failure) :
    Network :=
  net.report .warn "request failed, will retry" r
    [("attempt", toString attempt), ("retry_in_ms", toString (d.millis % UInt64.size)),
      ("error", f.message)]

/-- Sends a request after `made` attempts, with at most `left` more after the next one. -/
def sendAfter (p : RetryPolicy) (c : Cancellation) (r : Request) :
    Nat → Nat → Network → Except SendError Response × Network
  | left, made, net =>
    if c.fired made net.now then (.error (.cancelled made), net)
    else match net.attempt r with
      | (.ok a, net) => (.ok a, net.reportAnswer r (made + 1) a)
      | (.error f, net) =>
        if f.isRetryable then
          match left with
          | 0 =>
            (.error (.exhausted (made + 1) f),
              net.reportFailure "request failed, retries exhausted" r (made + 1) f)
          | left + 1 =>
            match (net.reportRetry r (made + 1) (p.delay made) f).pause c (made + 1)
                (p.delay made) with
            | (true, net) => (.error (.cancelled (made + 1)), net)
            | (false, net) => sendAfter p c r left (made + 1) net
        else
          (.error (.final (made + 1) f),
            net.reportFailure "request failed, not retryable" r (made + 1) f)

/-- Sends a request. -/
def send (net : Network) (p : RetryPolicy) (c : Cancellation) (r : Request) :
    Except SendError Response × Network :=
  sendAfter p c r (p.maxAttempts - 1) 0 net

/-! ### Progress -/

/-- What comes beyond the outcomes is no success. -/
theorem isSuccess_fallback {f : Fallback} {r : Request} {a : Response}
    (h : f.outcome r = .ok a) : a.isSuccess = false := by
  cases f with
  | unprepared => cases h; rfl
  | failing why => cases h

/-- An attempt uses up the first outcome, if there is one. -/
theorem outcomes_of_attempt {net net' : Network} {r : Request} {o : Except Failure Response}
    (h : net.attempt r = (o, net')) : net'.outcomes = net.outcomes.tail := by
  cases h
  rfl

/-- A pause uses up no outcome. -/
theorem outcomes_of_pause {net net' : Network} {c : Cancellation} {made : Nat} {d : Duration}
    {b : Bool} (h : net.pause c made d = (b, net')) : net'.outcomes = net.outcomes := by
  rw [pause] at h
  split at h <;> cases h <;> rfl

/-- An attempt that ends well uses up an outcome. -/
theorem length_outcomes_lt_of_attempt {net net' : Network} {r : Request} {a : Response}
    (h : net.attempt r = (.ok a, net')) (ha : a.isSuccess = true) :
    net'.outcomes.length < net.outcomes.length := by
  rw [outcomes_of_attempt h]
  match e : net.outcomes with
  | [] =>
    have h' : net.fallback.outcome r = .ok a := by
      simpa [attempt, e] using congrArg Prod.fst h
    rw [isSuccess_fallback h'] at ha
    cases ha
  | _ :: _ => simp

/-- Logging uses up no outcome. -/
@[simp] theorem outcomes_report (net : Network) (level : LogLevel) (message : String) (r : Request)
    (fields : List (String × String)) :
    (net.report level message r fields).outcomes = net.outcomes := rfl

/-- Logging an answer uses up no outcome. -/
@[simp] theorem outcomes_reportAnswer (net : Network) (r : Request) (attempts : Nat)
    (a : Response) : (net.reportAnswer r attempts a).outcomes = net.outcomes := by
  rw [reportAnswer]
  split <;> rfl

/-- Logging a failure uses up no outcome. -/
@[simp] theorem outcomes_reportFailure (net : Network) (message : String) (r : Request)
    (attempts : Nat) (f : Failure) :
    (net.reportFailure message r attempts f).outcomes = net.outcomes := rfl

/-- Logging that there will be another attempt uses up no outcome. -/
@[simp] theorem outcomes_reportRetry (net : Network) (r : Request) (attempt : Nat) (d : Duration)
    (f : Failure) : (net.reportRetry r attempt d f).outcomes = net.outcomes := rfl

/-- No outcome comes back. -/
theorem length_outcomes_sendAfter_le (p : RetryPolicy) (c : Cancellation) (r : Request)
    (left made : Nat) (net : Network) :
    (sendAfter p c r left made net).2.outcomes.length ≤ net.outcomes.length := by
  fun_induction sendAfter p c r left made net with
  | case1 => exact Nat.le_refl _
  | case2 _ _ _ _ _ _ e => simp [outcomes_of_attempt e]
  | case3 _ _ _ _ _ e => simp [outcomes_of_attempt e]
  | case4 _ _ _ _ _ e _ _ _ e' => simp [outcomes_of_pause e', outcomes_of_attempt e]
  | case5 _ _ _ _ _ e _ _ _ e' ih =>
    refine Nat.le_trans ih ?_
    simp [outcomes_of_pause e', outcomes_of_attempt e]
  | case6 _ _ _ _ _ _ e => simp [outcomes_of_attempt e]

/-- A request that succeeds uses up an outcome. -/
theorem length_outcomes_sendAfter_lt {p : RetryPolicy} {c : Cancellation} {r : Request}
    {left made : Nat} {net : Network} {a : Response}
    (h : (sendAfter p c r left made net).1 = .ok a) (ha : a.isSuccess = true) :
    (sendAfter p c r left made net).2.outcomes.length < net.outcomes.length := by
  fun_induction sendAfter p c r left made net with
  | case2 _ _ _ _ _ _ e =>
    cases h
    simpa using length_outcomes_lt_of_attempt e ha
  | case5 _ _ _ _ _ e _ _ _ e' ih =>
    refine Nat.lt_of_lt_of_le (ih h) ?_
    simp [outcomes_of_pause e', outcomes_of_attempt e]
  | _ => cases h

/-- Sending a request brings no outcome back. -/
theorem length_outcomes_send_le (net : Network) (p : RetryPolicy) (c : Cancellation) (r : Request) :
    (net.send p c r).2.outcomes.length ≤ net.outcomes.length :=
  length_outcomes_sendAfter_le ..

/-- A request that the service grants has used up an outcome. -/
theorem length_outcomes_send_lt {net : Network} {p : RetryPolicy} {c : Cancellation} {r : Request}
    {a : Response} (h : (net.send p c r).1 = .ok a) (ha : a.isSuccess = true) :
    (net.send p c r).2.outcomes.length < net.outcomes.length :=
  length_outcomes_sendAfter_lt h ha

end Network

end TagCatalog
