import DeferredDigest.Service.Stats
import Mathlib

/-!
# The mean latency

Recording samples one after another adds them up with a sum that stops at the ceiling after every
step.  Since a sum that has reached the ceiling stays there, the running total is the exact sum of
all samples cut once at the ceiling (`Stats.foldl_record_total`).  So the snapshot after any run
of samples from empty counts them and reports the exact sum, cut at the ceiling, truncated to
microseconds, capped at `2⁶⁴ - 1` and divided by the count (`Stats.snapshot_of_samples`).
-/

namespace DeferredDigest.Stats

variable {s : Stats}

@[simp] theorem saturatingAdd_nanos (a b : Duration) :
    (a.saturatingAdd b).nanos = min (a.nanos + b.nanos) Duration.ceiling := rfl

@[simp] theorem record_count (d : Duration) : (s.record d).count = s.count + 1 := rfl

@[simp] theorem record_total (d : Duration) : (s.record d).total = s.total.saturatingAdd d := rfl

@[simp] theorem ofParts_nanos (secs nanos : Nat) :
    (Duration.ofParts secs nanos).nanos = secs * 1000000000 + nanos := rfl

theorem ceiling_eq : Duration.ceiling = 18446744073709551615 * 1000000000 + 999999999 := rfl

theorem u64Max_eq : Decimal.u64Max = 18446744073709551615 := rfl

/-- Each record counts one sample. -/
theorem foldl_record_count (s : Stats) (ds : List Duration) :
    (ds.foldl record s).count = s.count + ds.length := by
  induction ds generalizing s with
  | nil => rfl
  | cons d ds ih =>
    rw [List.foldl_cons, ih, record_count, List.length_cons]
    omega

/-- From a total within the ceiling, recording a run of samples gives their exact sum added to
it, cut once at the ceiling. -/
theorem foldl_record_total (ds : List Duration) (hs : s.total.nanos ≤ Duration.ceiling) :
    (ds.foldl record s).total.nanos = min (s.total.nanos + (ds.map Duration.nanos).sum)
      Duration.ceiling := by
  induction ds generalizing s with
  | nil => exact (Nat.min_eq_left hs).symm
  | cons d ds ih =>
    have hle : (s.record d).total.nanos ≤ Duration.ceiling := Nat.min_le_right _ _
    rw [List.foldl_cons, ih hle, record_total, saturatingAdd_nanos, List.map_cons, List.sum_cons]
    -- a sum cut at the ceiling and then added to is cut there again
    omega

theorem snapshot_eq (s : Stats) : s.snapshot =
    ⟨s.count, if s.count = 0 then 0 else min (s.total.nanos / 1000) Decimal.u64Max / s.count⟩ :=
  rfl

/-- The snapshot after recording samples of `secs` seconds and `nanos` nanoseconds, one after
another, into empty statistics: the count of samples, and their exact sum in nanoseconds, cut at
`2⁶⁴ - 1` seconds and `999 999 999` nanoseconds, truncated to whole microseconds, capped at
`2⁶⁴ - 1` and divided by the count with the remainder dropped; zero with no samples.  The snapshot
after the first `k` samples of a longer run is that of those `k`. -/
theorem snapshot_of_samples (samples : List (Nat × Nat)) :
    ((samples.map fun p => Duration.ofParts p.1 p.2).foldl record empty).snapshot =
      ⟨samples.length, if samples.length = 0 then 0 else
        min (min (samples.map fun p => p.1 * 1000000000 + p.2).sum
          (18446744073709551615 * 1000000000 + 999999999) / 1000) 18446744073709551615 /
          samples.length⟩ := by
  have hcount := foldl_record_count empty (samples.map fun p => Duration.ofParts p.1 p.2)
  have htotal := foldl_record_total (s := empty) (samples.map fun p => Duration.ofParts p.1 p.2)
    (Nat.zero_le _)
  rw [List.length_map] at hcount
  rw [List.map_map] at htotal
  rw [snapshot_eq, hcount, htotal, ceiling_eq, u64Max_eq]
  simp [empty, Duration.zero, Function.comp_def]

example : (([(0, 10000), (0, 20000), (0, 31000)].map fun p => Duration.ofParts p.1 p.2).foldl
    record empty).snapshot = ⟨3, 20⟩ := by decide

end DeferredDigest.Stats
