import DeferredDigest.Proofs.Session.Visibility

/-!
# Draining the worker

A drain lets time pass to the latest due time of the pending tasks, or stays where it is if
none is later: every task runs and nothing is left pending.  A bounded drain with limit `l`, its
clock at `T`, is a drain when every task falls due before `T + l`, and returns `0`.  Otherwise it
stops the clock at `T + l` and returns the number of tasks due at `T + l` or later, those still
pending when the limit is reached; the tasks due exactly at `T + l` then still run, so only
those due after `T + l` stay pending, and the count returned can be larger than what is left.

On a service that keeps the ledger of handles (`Service.Ledger`), as every service does that a
script of requests, passing time and gate operations reaches from a fresh start, every task that
runs stores the digest of its payload, since its handle is never already stored; `Service.Drains`
collects what draining does there (`Service.Ledger.drains`).  Draining leaves no mark on the
worker: a submission accepted later adds one pending task like any other, and a later drain
stores its digest.

Main statement: `Session.drains_pending`.  `Session.drainFor_overcounts_and_drain_keeps_stored`
gives a run in which the count a bounded drain returns is larger than what it leaves pending, and
one in which a digest written by hand keeps a drained task's digest out of the store.
-/

namespace DeferredDigest

namespace Worker

variable {w : Worker} {T limit : Nat}

/-- The latest of a start time and the due times of some tasks is the start time or one of the
due times. -/
theorem foldl_max_due_eq_or (ts : List Task) (m : Nat) :
    ts.foldl (fun m t => max m t.due) m = m ∨
      ∃ t ∈ ts, ts.foldl (fun m t => max m t.due) m = t.due := by
  induction ts generalizing m with
  | nil => exact .inl rfl
  | cons u us ih =>
    rw [List.foldl_cons]
    rcases ih (max m u.due) with h | ⟨t, ht, h⟩
    · -- the running maximum is not passed after `u`: it is `m` or `u`'s due time
      rw [h]
      rcases Nat.le_total m u.due with hle | hle
      · exact .inr ⟨u, List.mem_cons_self, Nat.max_eq_right hle⟩
      · exact .inl (Nat.max_eq_left hle)
    · exact .inr ⟨t, List.mem_cons_of_mem _ ht, h⟩

/-- The last due time is the clock or the due time of a pending task. -/
theorem lastDue_eq_or : w.lastDue = w.clock ∨ ∃ t ∈ w.pending, w.lastDue = t.due :=
  foldl_max_due_eq_or w.pending w.clock

/-- Nothing stays pending once time has run past every due time. -/
theorem runUntil_pending_eq_nil (h : ∀ t ∈ w.pending, t.due ≤ T) : (w.runUntil T).2.pending = [] := by
  rw [List.eq_nil_iff_forall_not_mem]
  intro t ht
  obtain ⟨ht, hlt⟩ := (mem_runUntil_pending T).mp ht
  exact Nat.not_le_of_lt hlt (h t ht)

/-- A bounded drain within whose limit every task falls due is a drain, and reports nothing left
over. -/
theorem drainFor_of_lt (h : ∀ t ∈ w.pending, t.due < w.clock + limit) :
    w.drainFor limit = (0, w.drain) := by
  have hall : w.pending.all (·.due < w.clock + limit) = true := by
    rw [List.all_eq_true]
    intro t ht
    exact decide_eq_true (h t ht)
  simp only [drainFor, hall, if_true]

/-- A bounded drain that reaches its limit runs time to the limit and reports the tasks due at
the limit or later. -/
theorem drainFor_of_le (h : ∃ t ∈ w.pending, w.clock + limit ≤ t.due) :
    w.drainFor limit = ((w.pending.filter (w.clock + limit ≤ ·.due)).length,
      w.runUntil (w.clock + limit)) := by
  have hall : w.pending.all (·.due < w.clock + limit) = false := by
    obtain ⟨t, ht, hle⟩ := h
    rw [Bool.eq_false_iff, ne_eq, List.all_eq_true, not_forall]
    exact ⟨t, fun hlt => Nat.not_le_of_lt (of_decide_eq_true (hlt ht)) hle⟩
  simp only [drainFor, hall, Bool.false_eq_true, if_false]

end Worker

namespace Service

variable {v : Service} {hasher : Hasher} {subs : List (Nat × String)} {t : Task} {T limit : Nat}

theorem drain_pending : v.drain.worker.pending = [] := by
  rw [drain_eq_runTo]
  exact Worker.runUntil_pending_eq_nil fun _ ht => Worker.due_le_lastDue ht

theorem drain_clock : v.drain.worker.clock = v.worker.lastDue := by
  rw [drain_eq_runTo, runTo_clock]

theorem drainFor_eq (limit : Nat) : v.drainFor limit = ((v.worker.drainFor limit).1,
    { v with worker := (v.worker.drainFor limit).2.2 }.complete (v.worker.drainFor limit).2.1) :=
  rfl

theorem drainFor_of_lt (h : ∀ t ∈ v.worker.pending, t.due < v.worker.clock + limit) :
    v.drainFor limit = (0, v.drain) := by
  rw [drainFor_eq, Worker.drainFor_of_lt h]
  rfl

theorem drainFor_of_le (h : ∃ t ∈ v.worker.pending, v.worker.clock + limit ≤ t.due) :
    v.drainFor limit = (v.worker.pending.countP (v.worker.clock + limit ≤ ·.due),
      v.runTo (v.worker.clock + limit)) := by
  rw [drainFor_eq, Worker.drainFor_of_le h, List.countP_eq_length_filter]
  rfl

namespace Ledger

/-- Letting time run past a pending task's due time stores the digest of its payload. -/
theorem runTo_get? (hv : v.Ledger hasher subs) (ht : t ∈ v.worker.pending) (hT : t.due ≤ T) :
    (v.runTo T).store.get? t.handle = some (hasher.apply t.payload) := by
  have hv' : (v.runTo T).Ledger hasher subs := hv.complete (Worker.runUntil_perm T)
  obtain ⟨pw, hpw, hpay⟩ := hv.payload t ht
  rw [hpay]
  exact hv'.get?_of_stored hpw (runTo_stores ht hT)

/-- A drain stores the digest of every pending task. -/
theorem drain_get? (hv : v.Ledger hasher subs) (ht : t ∈ v.worker.pending) :
    v.drain.store.get? t.handle = some (hasher.apply t.payload) := by
  rw [drain_eq_runTo]
  exact hv.runTo_get? ht (Worker.due_le_lastDue ht)

end Ledger

/-- What draining does to a service whose clock is at `T`; the due times are those of its pending
tasks, and `hasher` is its digest rule. -/
structure Drains (v : Service) (hasher : Hasher) : Prop where
  /-- A drain leaves nothing pending. -/
  drain_pending : v.drain.worker.pending = []
  /-- A drain stores the digest of every pending task. -/
  drain_stores : ∀ t ∈ v.worker.pending, v.drain.store.get? t.handle = some (hasher.apply t.payload)
  /-- A drain stops the clock at the latest of `T` and the due times. -/
  drain_clock : v.worker.clock ≤ v.drain.worker.clock ∧
    (∀ t ∈ v.worker.pending, t.due ≤ v.drain.worker.clock) ∧
    (v.drain.worker.clock = v.worker.clock ∨ ∃ t ∈ v.worker.pending, v.drain.worker.clock = t.due)
  /-- A bounded drain within whose limit every task falls due returns `0` and is a drain. -/
  within : ∀ limit, (∀ t ∈ v.worker.pending, t.due < v.worker.clock + limit) →
    (v.drainFor limit).1 = 0 ∧ (v.drainFor limit).2 = v.drain
  /-- Otherwise it stops the clock at `T + limit` and returns the number of tasks due then or
  later; those due after `T + limit` stay pending, and those due by then have stored their
  digests. -/
  beyond : ∀ limit, (∃ t ∈ v.worker.pending, v.worker.clock + limit ≤ t.due) →
    (v.drainFor limit).2.worker.clock = v.worker.clock + limit ∧
      (v.drainFor limit).1 = v.worker.pending.countP (v.worker.clock + limit ≤ ·.due) ∧
      (v.drainFor limit).2.worker.pending.length =
        v.worker.pending.countP (v.worker.clock + limit < ·.due) ∧
      ∀ t ∈ v.worker.pending, t.due ≤ v.worker.clock + limit →
        (v.drainFor limit).2.store.get? t.handle = some (hasher.apply t.payload)

/-- A service that keeps the ledger of handles drains as `Drains` says. -/
theorem Ledger.drains (hv : v.Ledger hasher subs) : v.Drains hasher := by
  refine ⟨drain_pending, fun t ht => hv.drain_get? ht, ?_, fun limit hlt => ?_,
    fun limit hle => ?_⟩
  · rw [drain_clock]
    exact ⟨Worker.clock_le_lastDue, fun t ht => Worker.due_le_lastDue ht, Worker.lastDue_eq_or⟩
  · rw [drainFor_of_lt hlt]
    exact ⟨rfl, rfl⟩
  · rw [drainFor_of_le hle]
    refine ⟨runTo_clock, rfl, ?_, fun t ht hdue => hv.runTo_get? ht hdue⟩
    -- the tasks left are those due after the limit
    show (Worker.runUntil _ _).2.pending.length = _
    rw [Worker.runUntil_pending, List.countP_eq_length_filter]
    congr 1
    apply List.filter_congr
    intro t _
    simp only [← decide_not, Nat.not_le]

end Service

namespace Session

variable {s : Session} {hasher : Hasher} {subs : List (Nat × String)} {st : Step} {h : Nat}
  {pw : String}

/-- A step that makes a submission adds exactly its task to the pending ones. -/
theorem submission?_pending (hv : s.service.Ledger hasher subs)
    (hsub : s.submission? st = some (h, pw)) :
    (s.next st).service.worker.pending.Perm (submittedTask s.service h pw :: s.service.worker.pending) := by
  obtain ⟨⟨verb, path, form⟩, hreq, hs⟩ := Option.bind_eq_some_iff.mp hsub
  rw [service_next_of_request? hreq]
  rcases Service.dispatch_cases hv.router_eq verb path form with
    ⟨-, pw', -, -, hpw, -, hd⟩ | ⟨-, -, -, hd⟩ | ⟨-, hid, -⟩
  · simp only [Service.submission?, hd, hpw, Reply.submittedId?, Reply.ok, Option.map_some] at hs
    obtain ⟨rfl, rfl⟩ := hs
    rw [hd]
    exact Worker.schedule_pending_perm _ _ _
  · simp [Service.submission?, hd, Reply.submittedId?, Reply.ok] at hs
  · simp [Service.submission?, Reply.submittedId?_eq_none hid] at hs

/-- What draining does along the scripts run on a fresh service with settings `c`, digest rule
`hasher` and executor or not, that only send requests, let time pass and act on the gate. -/
structure DrainsPending (c : ServiceConfig) (hasher : Hasher) (e : Bool) : Prop where
  /-- Every service such a script reaches drains as `Service.Drains` says. -/
  drains : ∀ sts, (∀ st ∈ sts, st.tampers = false) →
    ((start c hasher e).run sts).service.Drains hasher
  /-- Every accepted submission, also one made after a drain, adds one pending task, and a later
  drain stores its digest for good. -/
  resubmit : ∀ pre st mid post h pw,
    (∀ st' ∈ pre ++ st :: (mid ++ .drain :: post), st'.tampers = false) →
    ((start c hasher e).run pre).submission? st = some (h, pw) →
    (((start c hasher e).run pre).next st).service.worker.pending.length =
        ((start c hasher e).run pre).service.worker.pending.length + 1 ∧
      ((start c hasher e).run (pre ++ st :: (mid ++ .drain :: post))).service.store.get? h =
        some (hasher.apply pw.toUTF8.toList)

/-- Draining, along every script of requests, passing time and gate operations on a fresh
service: a drain runs every pending task, stores its digest and stops the clock at the latest
due time; a bounded drain is a drain when every task falls due before its limit, and otherwise
stops at the limit, reporting the tasks due at the limit or later while those due exactly at the
limit still run; and submissions go on being scheduled, counted and drained after a drain. -/
theorem drains_pending (c : ServiceConfig) (hasher : Hasher) (e : Bool) :
    DrainsPending c hasher e := by
  refine ⟨fun sts hsts => (ledger_start_run c hasher e hsts).drains,
    fun pre st mid post h pw hsts hsub => ?_⟩
  have hpre : ∀ st' ∈ pre, st'.tampers = false := fun st' h' => hsts st' (by simp [h'])
  have hv := ledger_start_run c hasher e hpre
  refine ⟨?_, ?_⟩
  · rw [(submission?_pending hv hsub).length_eq, List.length_cons]
  · rw [run_append, run_cons]
    exact get?_once_due hv (fun st' h' => hsts st' (List.mem_append_right _ h')) hsub (.inl rfl)

/-- The theorem at a run with two tasks 50 ms apart and a delay of 100 ms: a bounded drain of 50 ms
stops at its limit with a task due after it; and the second submission adds one pending task,
whose digest a later drain stores. -/
theorem drains_pending_overlapping :
    let pre := [Step.dispatch "POST" "/hash" ⟨[("password", "a")]⟩, .advance 50]
    let st := Step.dispatch "POST" "/hash" ⟨[("password", "bb")]⟩
    ((∀ st' ∈ pre ++ [st], st'.tampers = false) ∧
      ∃ v, v = ((start { hashDelay := 100 } .lengthTag true).run (pre ++ [st])).service ∧
        (∃ t ∈ v.worker.pending, v.worker.clock + 50 ≤ t.due) ∧
        (v.drainFor 50).2.worker.clock = v.worker.clock + 50 ∧
        (v.drainFor 50).1 = v.worker.pending.countP (v.worker.clock + 50 ≤ ·.due) ∧
        (v.drainFor 50).2.worker.pending.length =
          v.worker.pending.countP (v.worker.clock + 50 < ·.due) ∧
        ∀ t ∈ v.worker.pending, t.due ≤ v.worker.clock + 50 →
          (v.drainFor 50).2.store.get? t.handle = some (Hasher.lengthTag.apply t.payload)) ∧
    ((∀ st' ∈ pre ++ st :: ([] ++ .drain :: []), st'.tampers = false) ∧
      ((start { hashDelay := 100 } .lengthTag true).run pre).submission? st = some (2, "bb") ∧
      (((start { hashDelay := 100 } .lengthTag true).run pre).next st).service.worker.pending.length =
        ((start { hashDelay := 100 } .lengthTag true).run pre).service.worker.pending.length + 1 ∧
      ((start { hashDelay := 100 } .lengthTag true).run
          (pre ++ st :: ([] ++ .drain :: []))).service.store.get? 2 =
        some (Hasher.lengthTag.apply "bb".toUTF8.toList)) := by
  intro pre st
  have hsts : ∀ st' ∈ pre ++ [st], st'.tampers = false := by decide
  have hsts' : ∀ st' ∈ pre ++ st :: ([] ++ .drain :: []), st'.tampers = false := by decide
  have hsub : ((start { hashDelay := 100 } .lengthTag true).run pre).submission? st =
      some (2, "bb") := by
    decide +kernel
  -- the service is named by an equation, so that the theorem's conclusion is matched as it stands
  refine ⟨⟨hsts, _, rfl, ?due, ((drains_pending _ _ _).drains _ hsts).beyond 50 ?due⟩,
    ⟨hsts', hsub, (drains_pending _ _ _).resubmit pre st [] [] 2 "bb" hsts' hsub⟩⟩
  case due =>
    -- the second task, submitted 50 ms after the first, falls due after the limit
    decide +kernel

/-- Two runs on which draining falls short of what might be expected.  With a delay of 100 ms, a
password submitted at 0 ms and another at 50 ms, a bounded drain of 50 ms from 50 ms reaches its
limit while a task is still due after it, and reports both tasks as left over; but the task due
exactly at the limit still runs, so only one is left.  And a digest written by hand under the
handle of a pending task keeps that task's digest out of the store, drain or no drain. -/
theorem drainFor_overcounts_and_drain_keeps_stored :
    (let sts := [Step.dispatch "POST" "/hash" ⟨[("password", "a")]⟩, .advance 50,
       .dispatch "POST" "/hash" ⟨[("password", "bb")]⟩]
     let v := ((start { hashDelay := 100 } .lengthTag true).run sts).service
     (∃ t ∈ v.worker.pending, v.worker.clock + 50 < t.due) ∧
       (v.drainFor 50).1 = 2 ∧ (v.drainFor 50).2.worker.pending.length = 1) ∧
    (let sts := [Step.dispatch "POST" "/hash" ⟨[("password", "pw")]⟩, .storeInsert 1 "x"]
     let v := ((start {} .lengthTag true).run sts).service
     v.worker.pending = [⟨1, [112, 119], 5000⟩] ∧ v.drain.store.get? 1 = some "x" ∧
       Hasher.lengthTag.apply [112, 119] = "len=2") := by
  decide +kernel

end Session

end DeferredDigest
