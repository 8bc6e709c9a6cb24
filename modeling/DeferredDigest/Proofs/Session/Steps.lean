import DeferredDigest.Proofs.Dispatch.Cases
import DeferredDigest.Session

/-!
# What each step of a session does to its service

One equation per kind of step, so that statements about runs never unfold `Session.step`.  A
step either hands a request to `Service.dispatch` (`Session.request?`: a dispatch step, or an HTTP
request that the front end accepts, with the form it gathers), or lets time pass for the worker
and the store when there is an executor, or acts on the gate alone, or leaves the service alone or
writes into one of its parts directly.

From these, `Session.gate_run`: along any script the gate changes only by its own operations, so
every service a script reaches from a fresh start has a coherent gate.
-/

namespace DeferredDigest

namespace Service

/-- A dispatch changes the gate by a sequence of its own operations. -/
theorem dispatch_gate_runOps (v : Service) (verb path : String) (form : Form) :
    ∃ ops, (v.dispatch verb path form).2.gate = v.gate.runOps ops := by
  rcases dispatch_gate v verb path form with ⟨-, h⟩ | ⟨-, mid, -, h⟩
  · exact ⟨[], h⟩
  · exact ⟨_, h⟩

end Service

namespace Session

variable {s : Session} {st : Step} {verb path : String} {form : Form} {req : Request} {ms : Nat}

theorem run_cons (st : Step) (sts : List Step) : s.run (st :: sts) = (s.next st).run sts := rfl

/-! ## Requests -/

/-- The request a step hands to the service's dispatch, if it hands one: its verb, path and
form. -/
def request? (s : Session) : Step → Option (String × String × Form)
  | .dispatch verb path form => some (verb, path, form)
  | .http req =>
    if s.service.executor then
      match Http.accept req with
      | .ok t => some (req.method, t.path, Http.gatherForm req.contentType req.body t.query)
      | .error _ => none
    else none
  | _ => none

/-- A step that hands a request to the service changes it as the dispatch of that request. -/
theorem service_next_of_request? (h : s.request? st = some (verb, path, form)) :
    (s.next st).service = (s.service.dispatch verb path form).2 := by
  cases st with
  | dispatch verb' path' form' =>
    cases h
    rfl
  | http req =>
    simp only [request?] at h
    split at h
    · rename_i he
      split at h
      · rename_i t ht
        cases h
        simp [next, step, needExecutor, he, Service.serve, ht, bind, Except.bind, pure,
          Except.pure, withService]
      · cases h
    · cases h
  | _ => cases h

/-- An HTTP step that hands no request to the service changes nothing. -/
theorem service_next_http_of_request? {req : Request} (h : s.request? (.http req) = none) :
    (s.next (.http req)).service = s.service := by
  simp only [request?] at h
  cases he : s.service.executor
  · simp [next, step, needExecutor, he, bind, Except.bind]
  · rw [he, if_pos rfl] at h
    split at h
    · cases h
    · rename_i e he'
      simp [next, step, needExecutor, he, Service.serve, he', bind, Except.bind]

/-! ## Time -/

theorem service_next_advance :
    (s.next (.advance ms)).service = if s.service.executor then s.service.advance ms
      else s.service := by
  cases he : s.service.executor <;>
    simp [next, step, needExecutor, he, bind, Except.bind, pure, Except.pure, withService]

theorem service_next_drain :
    (s.next .drain).service = if s.service.executor then s.service.drain else s.service := by
  cases he : s.service.executor <;>
    simp [next, step, needExecutor, he, bind, Except.bind, pure, Except.pure, withService]

theorem service_next_drainFor :
    (s.next (.drainFor ms)).service = if s.service.executor then (s.service.drainFor ms).2
      else s.service := by
  cases he : s.service.executor <;>
    simp [next, step, needExecutor, he, bind, Except.bind, pure, Except.pure, withService]

/-! ## The gate -/

/-- Holding an admission acts on the gate as an admission, granted or not. -/
theorem service_next_hold :
    (s.next .hold).service = { s.service with gate := s.service.gate.apply .acquire } := by
  cases hsd : s.service.gate.shuttingDown
  · simp [next, step, Gate.apply, Gate.acquire_of_open hsd, withGate, withService]
  · simp [next, step, Gate.apply, Gate.acquire_of_shuttingDown hsd]

/-- Letting go of a held admission releases it; with none held the step is refused. -/
theorem service_next_letGo :
    (s.next .letGo).service = s.service ∨
      (s.next .letGo).service = { s.service with gate := s.service.gate.apply .release } := by
  cases hh : s.held
  · exact .inl (by simp [next, step, hh])
  · exact .inr (by simp [next, step, hh, Gate.apply, withGate, withService])

/-! ## The other steps -/

/-- Reading the store, asking for the executor and observing change nothing. -/
theorem next_of_query {st : Step}
    (hst : (∃ h, st = .storeGet h) ∨ st = .executor ∨ st = .observe) : s.next st = s := by
  rcases hst with ⟨h, rfl⟩ | rfl | rfl <;> rfl

/-- Writing into the store, scheduling a digest and swapping the routes leave the gate alone. -/
theorem gate_next_of_write {st : Step}
    (hst : (∃ h d, st = .storeInsert h d) ∨ (∃ h p, st = .schedule h p) ∨
      ∃ r, st = .replaceRoutes r) :
    (s.next st).service.gate = s.service.gate := by
  rcases hst with ⟨h, d, rfl⟩ | ⟨h, p, rfl⟩ | ⟨r, rfl⟩
  · rfl
  · simp only [next, step]
    cases hv : s.service.schedule h p with
    | error f => rfl
    | ok v =>
      simp only [Service.schedule] at hv
      split at hv
      · cases hv; rfl
      · cases hv
  · rfl

/-! ## Runs -/

/-- Every step changes the gate by a sequence of its own operations. -/
theorem gate_next (s : Session) (st : Step) :
    ∃ ops, (s.next st).service.gate = s.service.gate.runOps ops := by
  cases st with
  | dispatch verb path form =>
    rw [service_next_of_request? rfl]
    exact Service.dispatch_gate_runOps s.service verb path form
  | http req =>
    cases h : s.request? (.http req) with
    | none => exact ⟨[], by rw [service_next_http_of_request? h]; rfl⟩
    | some r =>
      obtain ⟨verb, path, form⟩ := r
      rw [service_next_of_request? h]
      exact Service.dispatch_gate_runOps s.service verb path form
  | advance ms => exact ⟨[], by rw [service_next_advance]; split <;> rfl⟩
  | drain => exact ⟨[], by rw [service_next_drain]; split <;> rfl⟩
  | drainFor ms => exact ⟨[], by rw [service_next_drainFor]; split <;> rfl⟩
  | acquire => exact ⟨[.acquire], rfl⟩
  | release => exact ⟨[.release], rfl⟩
  | initiateShutdown => exact ⟨[.initiateShutdown], rfl⟩
  | hold => exact ⟨[.acquire], by rw [service_next_hold]; rfl⟩
  | letGo =>
    rcases service_next_letGo (s := s) with h | h
    · exact ⟨[], by rw [h]; rfl⟩
    · exact ⟨[.release], by rw [h]; rfl⟩
  | storeInsert h d => exact ⟨[], gate_next_of_write (.inl ⟨h, d, rfl⟩)⟩
  | storeGet h => exact ⟨[], by rw [next_of_query (.inl ⟨h, rfl⟩)]; rfl⟩
  | schedule h p => exact ⟨[], gate_next_of_write (.inr (.inl ⟨h, p, rfl⟩))⟩
  | executor => exact ⟨[], by rw [next_of_query (.inr (.inl rfl))]; rfl⟩
  | replaceRoutes r => exact ⟨[], gate_next_of_write (.inr (.inr ⟨r, rfl⟩))⟩
  | observe => exact ⟨[], by rw [next_of_query (.inr (.inr rfl))]; rfl⟩

/-- Along a script the gate changes only by its own operations. -/
theorem gate_run (s : Session) (sts : List Step) :
    ∃ ops, (s.run sts).service.gate = s.service.gate.runOps ops := by
  induction sts generalizing s with
  | nil => exact ⟨[], rfl⟩
  | cons st sts ih =>
    obtain ⟨ops, h⟩ := gate_next s st
    obtain ⟨ops', h'⟩ := ih (s.next st)
    refine ⟨ops ++ ops', ?_⟩
    rw [run_cons, h', h, Gate.runOps, Gate.runOps, Gate.runOps, List.foldl_append]

end Session

/-- The services that a script of steps reaches from a fresh start. -/
def Service.Reachable (v : Service) : Prop :=
  ∃ c h e sts, ((Session.start c h e).run sts).service = v

/-- Every service a script reaches has a coherent gate. -/
theorem Service.Reachable.coherent {v : Service} (hv : v.Reachable) : v.gate.Coherent := by
  obtain ⟨c, h, e, sts, rfl⟩ := hv
  obtain ⟨ops, hops⟩ := Session.gate_run (Session.start c h e) sts
  rw [hops]
  exact Gate.coherent_initial.runOps ops

end DeferredDigest
