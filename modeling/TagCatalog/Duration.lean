/-!
Spans of time to the nanosecond, which stop at a greatest one.

* `Duration.nanos`: the whole span in nanoseconds, the view by which spans add and multiply.
* `Duration.add`, `Duration.mul`: sum and product, or the greatest span where they would exceed it.
-/

namespace TagCatalog

/-- A span of time in nanoseconds, whose seconds fit a word of 64 bits. -/
structure Duration where
  nanos : Nat
  nanos_lt : nanos < UInt64.size * 1000000000

namespace Duration

/-- Spans of as many nanoseconds are the same. -/
@[ext] theorem ext {a b : Duration} (h : a.nanos = b.nanos) : a = b := by
  cases a; cases b; simp_all

instance : DecidableEq Duration := fun a b =>
  decidable_of_iff (a.nanos = b.nanos) ⟨ext, fun h => h ▸ rfl⟩

/-- The greatest span. -/
def greatest : Duration := ⟨UInt64.size * 1000000000 - 1, by decide⟩

/-- So many nanoseconds, or the greatest span. -/
def ofNanos (n : Nat) : Duration := if h : n < UInt64.size * 1000000000 then ⟨n, h⟩ else greatest

/-- So many milliseconds. -/
def ofMillis (n : UInt64) : Duration :=
  ⟨n.toNat * 1000000, by have := n.toNat_lt_size; omega⟩

/-- The span of no time. -/
def zero : Duration := ⟨0, by decide⟩

instance : Inhabited Duration := ⟨zero⟩

/-- The whole seconds. -/
def seconds (d : Duration) : Nat := d.nanos / 1000000000

/-- The nanoseconds beyond the whole seconds. -/
def subsecNanos (d : Duration) : Nat := d.nanos % 1000000000

/-- The whole milliseconds. -/
def millis (d : Duration) : Nat := d.nanos / 1000000

/-- The sum of two spans, or the greatest span. -/
def add (a b : Duration) : Duration := ofNanos (a.nanos + b.nanos)

/-- A multiple of a span, or the greatest span. -/
def mul (a : Duration) (n : Nat) : Duration := ofNanos (a.nanos * n)

end Duration

end TagCatalog
