import DeferredDigest.Text.Decimal
/-!
# Latency statistics

The service counts the timed requests that succeeded and adds up how long they took.  Durations
are whole nanoseconds below a ceiling of `2⁶⁴ - 1` seconds and `999 999 999` nanoseconds, and a
sum that would pass the ceiling stops at it.  A snapshot reports the count and the mean latency
in whole microseconds: the total is truncated to microseconds, capped at `2⁶⁴ - 1`, and divided
by the count with the remainder dropped; with no samples the mean is zero.
-/

namespace DeferredDigest

/-- A span of time in nanoseconds, at most `Duration.ceiling`. -/
structure Duration where
  /-- The span in nanoseconds. -/
  nanos : Nat
deriving DecidableEq, Repr

namespace Duration

/-- The longest span: `2⁶⁴ - 1` seconds and `999 999 999` nanoseconds. -/
def ceiling : Nat := Decimal.u64Max * 1000000000 + 999999999

/-- The zero span. -/
def zero : Duration := ⟨0⟩

/-- The span of `secs` seconds and `nanos` nanoseconds. -/
def ofParts (secs nanos : Nat) : Duration := ⟨secs * 1000000000 + nanos⟩

/-- The span of `ms` milliseconds. -/
def ofMillis (ms : Nat) : Duration := ⟨ms * 1000000⟩

/-- The sum of two spans, stopping at the ceiling. -/
def saturatingAdd (a b : Duration) : Duration := ⟨min (a.nanos + b.nanos) ceiling⟩

/-- The whole microseconds of a span. -/
def micros (d : Duration) : Nat := d.nanos / 1000

end Duration

/-- What a snapshot reports: how many timed requests succeeded, and their mean latency in
microseconds. -/
structure Snapshot where
  total : Nat
  average : Nat
deriving DecidableEq, Repr

/-- The running count and total latency of the timed requests that succeeded. -/
structure Stats where
  count : Nat := 0
  total : Duration := Duration.zero
deriving DecidableEq, Repr

namespace Stats

/-- No samples yet. -/
def empty : Stats := {}

/-- Adds one sample. -/
def record (s : Stats) (d : Duration) : Stats :=
  { count := s.count + 1, total := s.total.saturatingAdd d }

/-- The mean latency in whole microseconds, zero when there is no sample. -/
def average (s : Stats) : Nat :=
  if s.count = 0 then 0 else min s.total.micros Decimal.u64Max / s.count

/-- The count and the mean latency. -/
def snapshot (s : Stats) : Snapshot := ⟨s.count, s.average⟩

/-- The snapshots taken after each of a run of samples, recorded in order from `s`. -/
def trace (s : Stats) : List Duration → List Snapshot
  | [] => []
  | d :: ds => (s.record d).snapshot :: (s.record d).trace ds

end Stats

end DeferredDigest
