import TagCatalog.Duration

/-!
How often a request is tried, and how long to wait between attempts.

* `RetryPolicy.delay`: the wait after an attempt, which doubles from one to the next.
* `RetryPolicy.totalBackoff`: the sum of the waits when every attempt fails.
-/

namespace TagCatalog

/-- How often a request is tried, and the first wait. -/
structure RetryPolicy where
  /-- The most attempts. -/
  maxAttempts : Nat
  /-- The wait after the first attempt. -/
  baseDelay : Duration
  /-- There is at least one attempt. -/
  pos : 0 < maxAttempts := by omega
  /-- A counter of 32 bits counts them. -/
  lt_size : maxAttempts < UInt32.size := by omega

namespace RetryPolicy

/-- So many attempts, but at least one. -/
def ofAttempts (attempts : UInt32) (baseDelay : Duration) : RetryPolicy where
  maxAttempts := max attempts.toNat 1
  baseDelay := baseDelay
  lt_size := Nat.max_lt.2 ⟨attempts.toNat_lt_size, by decide⟩

/-- Four attempts, the first wait one second. -/
def standard : RetryPolicy := ofAttempts 4 (Duration.ofMillis 1000)

instance : Inhabited RetryPolicy := ⟨standard⟩

/-- The factor of the wait after attempt `i`, counted from zero: a power of two, up to the greatest
number of 32 bits. -/
def factor (i : Nat) : Nat := if i < 32 then 1 <<< i else UInt32.size - 1

/-- The wait after attempt `i`, counted from zero. -/
def delay (p : RetryPolicy) (i : Nat) : Duration := p.baseDelay.mul (factor i)

/-- The sum of the first `n` waits. From the 33rd on they are all alike. -/
def backoff (p : RetryPolicy) (n : Nat) : Duration :=
  let doubling := (List.range (min n 32)).foldl (fun t i => Duration.add t (p.delay i)) .zero
  doubling.add ((p.delay 32).mul (n - 32))

/-- The sum of all waits when every attempt fails: there is none after the last. -/
def totalBackoff (p : RetryPolicy) : Duration := p.backoff (p.maxAttempts - 1)

end RetryPolicy

end TagCatalog
