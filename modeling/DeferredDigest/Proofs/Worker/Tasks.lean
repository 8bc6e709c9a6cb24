import DeferredDigest.Service.Worker

/-!
# The worker's pending tasks

Scheduling puts a task into the queue of pending tasks, and letting time pass takes out the tasks
that have fallen due.  As collections, nothing else happens to them:

* `Worker.schedule_pending_perm`: scheduling adds exactly the new task;
* `Worker.runUntil_perm`, `Worker.runUntil_done_sublist`: the tasks that run and the tasks left
  are the pending tasks split in two, and those that run keep their order;
* `Worker.advance_eq`, `Worker.drain_eq`, `Worker.drainFor_eq`: every way of letting time pass
  is `runUntil` some time.
-/

namespace DeferredDigest.Worker

variable {w : Worker} {ts : List Task} {t u : Task}

/-- Enqueueing a task adds it and nothing else. -/
theorem enqueue_perm (ts : List Task) (t : Task) : (enqueue ts t).Perm (t :: ts) := by
  induction ts with
  | nil => exact .refl _
  | cons u us ih =>
    unfold enqueue
    split
    · exact (ih.cons u).trans (.swap t u us)
    · exact .refl _

@[simp] theorem schedule_clock (h : Nat) (p : List UInt8) (d : Nat) :
    (w.schedule h p d).clock = w.clock := rfl

/-- Scheduling adds exactly one pending task: the handle and the payload given, due after the
delay or at the horizon, whichever comes first. -/
theorem schedule_pending_perm (h : Nat) (p : List UInt8) (d : Nat) :
    (w.schedule h p d).pending.Perm (⟨h, p, w.clock + min d horizon⟩ :: w.pending) :=
  enqueue_perm _ _

@[simp] theorem runUntil_clock (t : Nat) : (w.runUntil t).2.clock = t := rfl

/-- The tasks that run are those due by the new time, in the order they were pending. -/
theorem runUntil_fst (t : Nat) : (w.runUntil t).1 = w.pending.filter (·.due ≤ t) := by
  simp [runUntil]

/-- The tasks left are those due after the new time. -/
theorem runUntil_pending (t : Nat) :
    (w.runUntil t).2.pending = w.pending.filter fun u => !decide (u.due ≤ t) := by
  simp [runUntil]
  rfl

/-- Letting time run to `t` splits the pending tasks into those that run and those left. -/
theorem runUntil_perm (t : Nat) :
    ((w.runUntil t).1 ++ (w.runUntil t).2.pending).Perm w.pending := by
  rw [runUntil_fst, runUntil_pending]
  exact List.filter_append_perm _ _

/-- The tasks that run are pending tasks, in the order they were pending. -/
theorem runUntil_done_sublist (t : Nat) : (w.runUntil t).1.Sublist w.pending := by
  rw [runUntil_fst]
  exact List.filter_sublist

/-- A pending task runs exactly when it is due by the new time. -/
theorem mem_runUntil_fst (t : Nat) : u ∈ (w.runUntil t).1 ↔ u ∈ w.pending ∧ u.due ≤ t := by
  simp [runUntil_fst]

/-- A pending task stays exactly when it is due after the new time. -/
theorem mem_runUntil_pending (t : Nat) :
    u ∈ (w.runUntil t).2.pending ↔ u ∈ w.pending ∧ t < u.due := by
  simp [runUntil_pending]

theorem advance_eq (ms : Nat) : w.advance ms = w.runUntil (w.clock + ms) := rfl

theorem drain_eq : w.drain = w.runUntil w.lastDue := rfl

/-- A bounded drain runs time to the last due time or to the limit. -/
theorem drainFor_eq (limit : Nat) : ∃ t, (w.drainFor limit).2 = w.runUntil t := by
  unfold drainFor
  dsimp only
  split
  · exact ⟨_, rfl⟩
  · exact ⟨_, rfl⟩

/-- Taking the latest of a start time and the due times of some tasks gives a time no earlier than
any of them. -/
theorem le_foldl_max_due (ts : List Task) (m : Nat) :
    m ≤ ts.foldl (fun m t => max m t.due) m ∧
      ∀ t ∈ ts, t.due ≤ ts.foldl (fun m t => max m t.due) m := by
  induction ts generalizing m with
  | nil => simp
  | cons u us ih =>
    obtain ⟨hm, hus⟩ := ih (max m u.due)
    refine ⟨Nat.le_trans (Nat.le_max_left _ _) hm, fun t ht => ?_⟩
    rcases List.mem_cons.mp ht with rfl | ht
    · exact Nat.le_trans (Nat.le_max_right _ _) hm
    · exact hus t ht

theorem clock_le_lastDue : w.clock ≤ w.lastDue := (le_foldl_max_due w.pending w.clock).1

theorem due_le_lastDue (ht : t ∈ w.pending) : t.due ≤ w.lastDue :=
  (le_foldl_max_due w.pending w.clock).2 t ht

/-- A bounded drain runs time forward, to the last due time or to the limit. -/
theorem drainFor_forward (limit : Nat) :
    ∃ t, w.clock ≤ t ∧ (w.drainFor limit).2 = w.runUntil t := by
  unfold drainFor
  dsimp only
  split
  · exact ⟨_, clock_le_lastDue, rfl⟩
  · exact ⟨_, Nat.le_add_right _ _, rfl⟩

end DeferredDigest.Worker
