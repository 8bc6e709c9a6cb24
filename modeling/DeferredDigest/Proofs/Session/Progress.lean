import DeferredDigest.Proofs.Session.Ledger
import DeferredDigest.Proofs.Worker.Tasks

/-!
# How a service moves on

Along a script, time only moves forward and the store only fills up.  `Service.Moves v v'` says
what a service can become by steps that do not tamper with it: the settings and the executor stay,
the clock does not go back, a handle once stored stays stored, and a pending task stays pending or,
by the clock's new time, has its handle stored.  It is a preorder, every step that does not tamper
moves the service on (`Session.moves_next`), and so does every such script (`Session.moves_run`).

Every way of letting time pass is `Service.runTo` some time no earlier than the clock: the clock is
set to that time, the tasks due by then run and their digests are written, and only the tasks due
later stay pending (`Service.mem_runTo_pending`).
-/

namespace DeferredDigest

namespace Service

/-- Lets time run to `T`: the clock is set to `T` and the tasks due by then run, their digests
written into the store. -/
def runTo (v : Service) (T : Nat) : Service :=
  { v with worker := (v.worker.runUntil T).2 }.complete (v.worker.runUntil T).1

variable {v v' v'' : Service} {T : Nat} {t : Task} {h : Nat}

theorem advance_eq_runTo (ms : Nat) : v.advance ms = v.runTo (v.worker.clock + ms) := rfl

theorem drain_eq_runTo : v.drain = v.runTo v.worker.lastDue := rfl

/-- A bounded drain runs time forward, to the last due time or to the limit. -/
theorem drainFor_forward (limit : Nat) :
    ∃ T, v.worker.clock ≤ T ∧ (v.drainFor limit).2 = v.runTo T := by
  obtain ⟨T, hle, hT⟩ := Worker.drainFor_forward (w := v.worker) limit
  refine ⟨T, hle, ?_⟩
  show { v with worker := (v.worker.drainFor limit).2.2 }.complete (v.worker.drainFor limit).2.1 = _
  rw [hT]
  rfl

@[simp] theorem runTo_clock : (v.runTo T).worker.clock = T := rfl

@[simp] theorem runTo_config : (v.runTo T).config = v.config := rfl

@[simp] theorem runTo_executor : (v.runTo T).executor = v.executor := rfl

/-- Only the tasks due after the new time stay pending. -/
theorem mem_runTo_pending : t ∈ (v.runTo T).worker.pending ↔ t ∈ v.worker.pending ∧ T < t.due :=
  Worker.mem_runUntil_pending T

/-- After time runs to `T` the stored handles are those of the tasks due by `T` and those stored
before. -/
theorem mem_runTo_keys :
    h ∈ (v.runTo T).store.keys ↔
      (∃ t ∈ v.worker.pending, t.due ≤ T ∧ t.handle = h) ∨ h ∈ v.store.keys := by
  show h ∈ (v.store.insertAll (v.digests (v.worker.runUntil T).1)).2.keys ↔ _
  simp [Store.mem_keys_insertAll, digests, Worker.mem_runUntil_fst, and_assoc]

/-- A pending task due by the new time has its digest stored. -/
theorem runTo_stores (ht : t ∈ v.worker.pending) (hT : t.due ≤ T) :
    t.handle ∈ (v.runTo T).store.keys :=
  mem_runTo_keys.mpr (.inl ⟨t, ht, hT, rfl⟩)

/-! ## Moving on -/

/-- What a service can become by steps that do not tamper with it. -/
structure Moves (v v' : Service) : Prop where
  config_eq : v'.config = v.config
  executor_eq : v'.executor = v.executor
  clock_le : v.worker.clock ≤ v'.worker.clock
  stored : ∀ h ∈ v.store.keys, h ∈ v'.store.keys
  /-- A pending task stays pending, or it has fallen due and its handle is stored. -/
  pending : ∀ t ∈ v.worker.pending,
    t ∈ v'.worker.pending ∨ t.due ≤ v'.worker.clock ∧ t.handle ∈ v'.store.keys

namespace Moves

theorem refl (v : Service) : Moves v v :=
  ⟨rfl, rfl, Nat.le_refl _, fun _ hh => hh, fun _ ht => .inl ht⟩

theorem trans (h₁ : Moves v v') (h₂ : Moves v' v'') : Moves v v'' := by
  refine ⟨h₂.config_eq.trans h₁.config_eq, h₂.executor_eq.trans h₁.executor_eq,
    Nat.le_trans h₁.clock_le h₂.clock_le, fun h hh => h₂.stored h (h₁.stored h hh), ?_⟩
  intro t ht
  rcases h₁.pending t ht with ht' | ⟨hdue, hk⟩
  · exact h₂.pending t ht'
  · exact .inr ⟨Nat.le_trans hdue h₂.clock_le, h₂.stored _ hk⟩

/-- The gate is no part of moving on. -/
theorem withGate (hm : Moves v v') (g : Gate) : Moves v { v' with gate := g } :=
  ⟨hm.config_eq, hm.executor_eq, hm.clock_le, hm.stored, hm.pending⟩

/-- Nor are the statistics. -/
theorem withStats (hm : Moves v v') (st : Stats) : Moves v { v' with stats := st } :=
  ⟨hm.config_eq, hm.executor_eq, hm.clock_le, hm.stored, hm.pending⟩

/-- Scheduling a digest adds a pending task and leaves the clock and the store alone. -/
theorem schedule (n : Nat) (p : List UInt8) :
    Moves v { v with lastHandle := n, worker := v.worker.schedule n p v.config.hashDelay } := by
  refine ⟨rfl, rfl, Nat.le_refl _, fun _ hh => hh, fun t ht => .inl ?_⟩
  exact (Worker.schedule_pending_perm n p v.config.hashDelay).symm.subset (List.mem_cons_of_mem _ ht)

/-- Letting time run forward moves the service on. -/
theorem runTo (hT : v.worker.clock ≤ T) : Moves v (v.runTo T) := by
  refine ⟨runTo_config, runTo_executor, hT, fun h hh => mem_runTo_keys.mpr (.inr hh), fun t ht => ?_⟩
  -- a pending task runs when it is due by the new time and stays otherwise
  by_cases hdue : t.due ≤ T
  · exact .inr ⟨hdue, runTo_stores ht hdue⟩
  · exact .inl (mem_runTo_pending.mpr ⟨ht, Nat.lt_of_not_le hdue⟩)

end Moves

/-! ## Requests -/

theorem perform_moves (v : Service) (op : Operation) (c : Call) : Moves v (v.perform op c).2 := by
  cases op with
  | submit =>
    cases hs : v.submit c with
    | error f =>
      simp only [perform, hs]
      exact Moves.refl v
    | ok bs =>
      obtain ⟨b, v'⟩ := bs
      obtain ⟨pw, -, -, -, rfl, rfl⟩ := submit_eq_ok.mp hs
      simp only [perform, hs]
      exact Moves.schedule _ _
  | retrieve =>
    cases hr : v.retrieve c <;> simp only [perform, hr] <;> exact Moves.refl v
  | shutdown => exact (Moves.refl v).withGate _
  | stats => exact Moves.refl v
  | echo status => exact Moves.refl v
  | refuse f => exact Moves.refl v

theorem handle_moves (v : Service) (verb path : String) (form : Form) :
    Moves v (v.handle verb path form).2 := by
  unfold handle
  cases v.resolve verb path form with
  | error f => exact Moves.refl v
  | ok rc =>
    obtain ⟨route, call⟩ := rc
    have hm := perform_moves v route.operation call
    simp only
    split
    · exact hm.withStats _
    · exact hm

/-- Whatever the router, a request moves the service on. -/
theorem dispatch_moves (v : Service) (verb path : String) (form : Form) :
    Moves v (v.dispatch verb path form).2 := by
  unfold dispatch
  split
  · exact Moves.refl v
  · rename_i g _
    exact ((Moves.refl v).withGate g).trans ((handle_moves _ verb path form).withGate _)

end Service

namespace Session

variable {s : Session} {st : Step} {sts : List Step}

theorem run_append (s : Session) (xs ys : List Step) : s.run (xs ++ ys) = (s.run xs).run ys :=
  List.foldl_append

/-- A step that lets time pass, with an executor, runs time to some time; a drain to the last due
time. -/
theorem next_runTo (he : s.service.executor = true)
    (hst : st = .drain ∨ ∃ ms, st = .advance ms ∨ st = .drainFor ms) :
    ∃ T, (s.next st).service = s.service.runTo T ∧ (st = .drain → T = s.service.worker.lastDue) := by
  rcases hst with rfl | ⟨ms, rfl | rfl⟩
  · refine ⟨s.service.worker.lastDue, ?_, fun _ => rfl⟩
    rw [service_next_drain, if_pos he, Service.drain_eq_runTo]
  · refine ⟨s.service.worker.clock + ms, ?_, fun h => by cases h⟩
    rw [service_next_advance, if_pos he, Service.advance_eq_runTo]
  · obtain ⟨T, -, hT⟩ := Service.drainFor_forward (v := s.service) ms
    refine ⟨T, ?_, fun h => by cases h⟩
    rw [service_next_drainFor, if_pos he, hT]

/-- A step that does not tamper moves the service on. -/
theorem moves_next (hst : st.tampers = false) : Service.Moves s.service (s.next st).service := by
  cases hr : s.request? st with
  | some r =>
    obtain ⟨verb, path, form⟩ := r
    rw [service_next_of_request? hr]
    exact Service.dispatch_moves _ verb path form
  | none =>
    cases st with
    | dispatch verb path form => cases hr
    | http req =>
      rw [service_next_http_of_request? hr]
      exact Service.Moves.refl _
    | advance ms =>
      rw [service_next_advance]
      split
      · exact Service.Moves.runTo (Nat.le_add_right _ ms)
      · exact Service.Moves.refl _
    | drain =>
      rw [service_next_drain]
      split
      · exact Service.Moves.runTo Worker.clock_le_lastDue
      · exact Service.Moves.refl _
    | drainFor ms =>
      rw [service_next_drainFor]
      split
      · obtain ⟨T, hle, hT⟩ := Service.drainFor_forward (v := s.service) ms
        rw [hT]
        exact Service.Moves.runTo hle
      · exact Service.Moves.refl _
    | acquire | release | initiateShutdown => exact (Service.Moves.refl _).withGate _
    | hold =>
      rw [service_next_hold]
      exact (Service.Moves.refl _).withGate _
    | letGo =>
      rcases service_next_letGo (s := s) with h | h
      · rw [h]
        exact Service.Moves.refl _
      · rw [h]
        exact (Service.Moves.refl _).withGate _
    | storeInsert | schedule | replaceRoutes => cases hst
    | storeGet handle =>
      rw [next_of_query (.inl ⟨handle, rfl⟩)]
      exact Service.Moves.refl _
    | executor =>
      rw [next_of_query (.inr (.inl rfl))]
      exact Service.Moves.refl _
    | observe =>
      rw [next_of_query (.inr (.inr rfl))]
      exact Service.Moves.refl _

/-- A script that does not tamper moves the service on. -/
theorem moves_run (hsts : ∀ st ∈ sts, st.tampers = false) :
    Service.Moves s.service (s.run sts).service := by
  induction sts generalizing s with
  | nil => exact Service.Moves.refl _
  | cons st sts ih =>
    rw [run_cons]
    exact (moves_next (hsts st List.mem_cons_self)).trans
      (ih fun st' h => hsts st' (List.mem_cons_of_mem _ h))

end Session

end DeferredDigest
