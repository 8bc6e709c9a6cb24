import DeferredDigest.Proofs.Gate.Coherence
import DeferredDigest.Service.Dispatch

/-!
# The outcomes of a dispatch

A dispatch threads a request through admission, routing, the route's operation, the statistics
of timed routes and the end of the admission, and almost every stage can refuse it.  This file
takes the stages apart once, so that later statements about services never unfold `dispatch`:

* `Service.submit_eq_ok`: a submission succeeds exactly when the required fields pass, the path
  has no qualifier and there is an executor; it then gives out the next handle and schedules the
  password's bytes.
* `Router.lookup_standard`: the four routes of the standard router.
* `Service.handle_cases`: with the standard routes an admitted request either submits a
  password, or initiates shutdown, or leaves the service as it was and answers neither a handle
  nor the acknowledgement of shutdown.
* `Service.dispatch_cases`: the same for a whole dispatch, where the admission taken at the
  start is given back at the end.
-/

namespace DeferredDigest

theorem bind_eq_ok {ε α β : Type} {x : Except ε α} {f : α → Except ε β} {b : β} :
    (x >>= f) = .ok b ↔ ∃ a, x = .ok a ∧ f a = .ok b := by
  cases x <;> simp [bind, Except.bind]

@[simp] theorem mapError_ok {ε ε' α : Type} (f : ε → ε') (a : α) :
    (Except.ok a : Except ε α).mapError f = .ok a := rfl

@[simp] theorem throw_eq_error {ε α : Type} (e : ε) : (throw e : Except ε α) = .error e := rfl

@[simp] theorem mapError_error {ε ε' α : Type} (f : ε → ε') (e : ε) :
    (Except.error e : Except ε α).mapError f = .error (f e) := rfl

namespace Reply

/-- A fault is never reported with a success code. -/
@[simp] theorem ofFault_success (f : Fault) : (ofFault f).success = false := by
  cases f <;> rfl

@[simp] theorem ok_success (b : Body) : (ok b).success = true := rfl

theorem ofFault_ne_ok (f : Fault) (b : Body) : ofFault f ≠ ok b := by
  intro h
  simpa using congrArg success h

end Reply

namespace Router

theorem entries_standard : standard.entries = [⟨.generic, "shutdown", ⟨.shutdown, false⟩⟩,
    ⟨.verb .get, "stats", ⟨.stats, false⟩⟩, ⟨.verb .get, "hash", ⟨.retrieve, false⟩⟩,
    ⟨.verb .post, "hash", ⟨.submit, true⟩⟩] := by
  decide

/-- The routes of the standard router: `POST hash` submits and is timed, `GET hash` retrieves,
`GET stats` reports, and `shutdown` initiates shutdown under either verb. -/
theorem lookup_standard {v : Verb} {m : String} {r : Route} (h : standard.lookup v m = some r) :
    (v = .post ∧ m = "hash" ∧ r = ⟨.submit, true⟩) ∨
      (v = .get ∧ m = "hash" ∧ r = ⟨.retrieve, false⟩) ∨
      (v = .get ∧ m = "stats" ∧ r = ⟨.stats, false⟩) ∨
      (m = "shutdown" ∧ r = ⟨.shutdown, false⟩) := by
  simp only [lookup, find?, entries_standard] at h
  by_cases h1 : m = "hash"
  · subst h1; cases v <;> simp at h <;> simp [h]
  by_cases h2 : m = "stats"
  · -- only `GET` has a stats route
    subst h2
    cases v with
    | get =>
      simp at h
      simp [h]
    | post => simp at h
  by_cases h3 : m = "shutdown"
  · subst h3; cases v <;> simp at h <;> simp [h]
  · cases v <;> simp [Ne.symm h1, Ne.symm h2, Ne.symm h3] at h

end Router

namespace Service

variable {s s' : Service} {c : Call} {b : Body} {verb path : String} {form : Form}

/-! ## Submissions -/

/-- A field passes its check when it is present, not empty, and not longer than the maximum. -/
theorem checkField_eq_ok {max : Nat} {field : String} (h : checkField max form field = .ok ()) :
    ∃ v, form.get? field = some v ∧ v ≠ "" ∧ v.utf8ByteSize ≤ max := by
  unfold checkField at h
  split at h
  · simp at h
  · rename_i v hv
    split at h
    · simp at h
    · split at h
      · simp at h
      · exact ⟨v, hv, by simpa using ‹¬v.isEmpty = true›, by omega⟩

/-- The password that validation returns is the value of the password field. -/
theorem validate_eq_ok {cf : ServiceConfig} {pw : String} (h : validate cf form = .ok pw) :
    form.get? cf.passwordField = some pw := by
  obtain ⟨_, hall, hpw⟩ := bind_eq_ok.mp h
  rw [ServiceConfig.requiredFields, List.forM_eq_forM, List.forM_cons] at hall
  obtain ⟨_, hpf, -⟩ := bind_eq_ok.mp hall
  obtain ⟨v, hv, -, -⟩ := checkField_eq_ok hpf
  simp [hv, pure, Except.pure] at hpw
  simp [hv, hpw]

/-- A submission succeeds exactly when validation passes, the path has no qualifier and there is
an executor; it answers the next handle and schedules the password's bytes under it. -/
theorem submit_eq_ok : s.submit c = .ok (b, s') ↔ ∃ pw, validate s.config c.form = .ok pw ∧
    c.rest = [] ∧ s.executor = true ∧ b = .submitted (s.lastHandle + 1) ∧
    s' = { s with lastHandle := s.lastHandle + 1
                  worker := s.worker.schedule (s.lastHandle + 1) pw.toUTF8.toList
                    s.config.hashDelay } := by
  simp only [submit, bind_eq_ok]
  constructor
  · rintro ⟨pw, hv, h⟩
    by_cases hr : c.rest = [] <;> by_cases he : s.executor = true <;>
      simp [schedule, hr, he, bind, Except.bind] at h
    obtain ⟨rfl, rfl⟩ := h
    exact ⟨pw, hv, hr, he, rfl, by rw [he]; rfl⟩
  · rintro ⟨pw, hv, hr, he, rfl, rfl⟩
    exact ⟨pw, hv, by simp [schedule, hr, he, Functor.map, Except.map]⟩

/-- A retrieval answers only with a stored digest. -/
theorem retrieve_eq_ok (h : s.retrieve c = .ok b) : ∃ id d, b = .digest id d := by
  unfold retrieve at h
  split at h
  · split at h
    · rename_i id _
      split at h
      · rename_i d _
        simp only [pure, Except.pure, Except.ok.injEq] at h
        exact ⟨id, d, h.symm⟩
      · simp at h
    · simp at h
  · simp at h

/-! ## Routing -/

/-- A request is routed when its verb is read, its path names a method, and the router has a
route for that verb and method; the call carries the pieces after the method. -/
theorem resolve_eq_ok {r : Route} (h : s.resolve verb path form = .ok (r, c)) :
    ∃ v method rest, Verb.ofName? verb = some v ∧ Path.resolve path = .ok (method, rest) ∧
      s.router.lookup v method = some r ∧ c = ⟨v, method, rest, form⟩ := by
  unfold resolve at h
  cases hv : Verb.ofName? verb with
  | none => simp [hv] at h
  | some v =>
    simp only [hv] at h
    obtain ⟨⟨method, rest⟩, hp, h⟩ := bind_eq_ok.mp h
    cases hl : s.router.lookup v method with
    | none => simp [hl] at h
    | some r' =>
      simp only [hl, pure, Except.pure, Except.ok.injEq, Prod.mk.injEq] at h
      obtain ⟨rfl, rfl⟩ := h
      exact ⟨v, method, rest, rfl, hp, hl, rfl⟩

/-! ## An admitted request -/

/-- What an admitted request does to a service with the standard routes.  It either submits a
password (`POST hash` with no qualifier, a password and an executor: the next handle is given out,
the digest scheduled and the success counted), or reaches the shutdown route under a known verb
and initiates shutdown, or leaves the service exactly as it was and answers neither a handle nor
the acknowledgement of shutdown. -/
theorem handle_cases (hr : s.router = Router.standard) (verb path : String) (form : Form) :
    (∃ pw, Verb.ofName? verb = some .post ∧ Path.resolve path = .ok ("hash", []) ∧
        form.get? s.config.passwordField = some pw ∧ s.executor = true ∧
        s.handle verb path form = (⟨Reply.ok (.submitted (s.lastHandle + 1)), none⟩,
          { s with lastHandle := s.lastHandle + 1
                   worker := s.worker.schedule (s.lastHandle + 1) pw.toUTF8.toList
                     s.config.hashDelay
                   stats := s.stats.record Duration.zero })) ∨
      ((Verb.ofName? verb).isSome ∧ (∃ rest, Path.resolve path = .ok ("shutdown", rest)) ∧
        s.handle verb path form =
          (⟨Reply.ok (.ack "shutting down"), none⟩, { s with gate := s.gate.initiateShutdown.2 })) ∨
      ((s.handle verb path form).2 = s ∧
        (∀ id, (s.handle verb path form).1.reply ≠ Reply.ok (.submitted id)) ∧
        (s.handle verb path form).1.reply ≠ Reply.ok (.ack "shutting down")) := by
  unfold handle
  cases hres : s.resolve verb path form with
  | error f => exact .inr (.inr ⟨rfl, fun _ => Reply.ofFault_ne_ok _ _, Reply.ofFault_ne_ok _ _⟩)
  | ok rc =>
    obtain ⟨route, call⟩ := rc
    obtain ⟨v, method, rest, hv, hp, hl, rfl⟩ := resolve_eq_ok hres
    rw [hr] at hl
    rcases Router.lookup_standard hl with ⟨rfl, rfl, rfl⟩ | ⟨rfl, rfl, rfl⟩ | ⟨rfl, rfl, rfl⟩ |
      ⟨rfl, rfl⟩
    · -- the submission route: it changes the service exactly when the submission succeeds
      cases hsub : s.submit ⟨.post, "hash", rest, form⟩ with
      | error f =>
        refine .inr (.inr ⟨?_, fun _ => ?_, ?_⟩) <;>
          simp [perform, hsub, Reply.ofFault_ne_ok]
      | ok bs =>
        obtain ⟨b, s'⟩ := bs
        obtain ⟨pw, hval, hrest, hex, rfl, rfl⟩ := submit_eq_ok.mp hsub
        subst hrest
        refine .inl ⟨pw, hv, hp, validate_eq_ok hval, hex, ?_⟩
        simp [perform, hsub]
    · -- retrieval reads the store and changes nothing
      cases hret : s.retrieve ⟨.get, "hash", rest, form⟩ with
      | error f =>
        refine .inr (.inr ⟨?_, fun _ => ?_, ?_⟩) <;> simp [perform, hret, Reply.ofFault_ne_ok]
      | ok b =>
        obtain ⟨id, d, rfl⟩ := retrieve_eq_ok hret
        refine .inr (.inr ⟨?_, fun _ => ?_, ?_⟩) <;> simp [perform, hret, Reply.ok]
    · refine .inr (.inr ⟨?_, fun _ => ?_, ?_⟩) <;> simp [perform, Reply.ok]
    · exact .inr (.inl ⟨by simp [hv], ⟨rest, hp⟩, by simp [perform]⟩)

/-! ## A whole dispatch -/

/-- A service that is shutting down answers every request that it is shutting down, and changes
nothing. -/
theorem dispatch_of_shuttingDown (h : s.gate.shuttingDown = true) (verb path : String)
    (form : Form) : s.dispatch verb path form = (⟨Reply.ofFault .serviceShutdown, none⟩, s) := by
  simp [dispatch, Gate.acquire_of_shuttingDown h]

/-- What a dispatch does to a service with the standard routes: the three ways of
`handle_cases`, with the admission given back at the end.  Only a shutdown leaves the gate
changed, as a session that enters, initiates shutdown and leaves. -/
theorem dispatch_cases (hr : s.router = Router.standard) (verb path : String) (form : Form) :
    (s.gate.shuttingDown = false ∧ ∃ pw, Verb.ofName? verb = some .post ∧
        Path.resolve path = .ok ("hash", []) ∧ form.get? s.config.passwordField = some pw ∧
        s.executor = true ∧
        s.dispatch verb path form = (⟨Reply.ok (.submitted (s.lastHandle + 1)), none⟩,
          { s with lastHandle := s.lastHandle + 1
                   worker := s.worker.schedule (s.lastHandle + 1) pw.toUTF8.toList
                     s.config.hashDelay
                   stats := s.stats.record Duration.zero })) ∨
      (s.gate.shuttingDown = false ∧ (Verb.ofName? verb).isSome ∧
        (∃ rest, Path.resolve path = .ok ("shutdown", rest)) ∧
        s.dispatch verb path form = (⟨Reply.ok (.ack "shutting down"), none⟩,
          { s with gate := s.gate.runOps [.acquire, .initiateShutdown, .release] })) ∨
      ((s.dispatch verb path form).2 = s ∧
        (∀ id, (s.dispatch verb path form).1.reply ≠ Reply.ok (.submitted id)) ∧
        (s.dispatch verb path form).1.reply ≠ Reply.ok (.ack "shutting down")) := by
  cases hsd : s.gate.shuttingDown
  · have hr' : ({ s with gate := s.gate.acquire.2 } : Service).router = Router.standard := hr
    rcases handle_cases hr' verb path form with ⟨pw, hv, hp, hpw, hex, hh⟩ | ⟨hv, hp, hh⟩ |
      ⟨hs, hsub, hack⟩
    · refine .inl ⟨rfl, pw, hv, hp, hpw, hex, ?_⟩
      simp only [Gate.acquire_of_open hsd] at hh
      simp [dispatch, Gate.acquire_of_open hsd, hh, Gate.release_admitted hsd]
    · refine .inr (.inl ⟨rfl, hv, hp, ?_⟩)
      simp only [Gate.acquire_of_open hsd] at hh
      simp [dispatch, Gate.acquire_of_open hsd, hh, Gate.runOps, Gate.apply]
    · simp only [Gate.acquire_of_open hsd] at hs hsub hack
      refine .inr (.inr ⟨?_, ?_, ?_⟩) <;>
        simp [dispatch, Gate.acquire_of_open hsd, hs, hsub, hack, Gate.release_admitted hsd]
  · simp [dispatch_of_shuttingDown hsd, Reply.ofFault_ne_ok]

/-! ## The gate under any router -/

/-- Of all operations only shutdown touches the gate. -/
theorem perform_gate (s : Service) (op : Operation) (c : Call) :
    (s.perform op c).2.gate = if op = .shutdown then s.gate.initiateShutdown.2 else s.gate := by
  cases op with
  | submit =>
    cases h : s.submit c with
    | error f => simp [perform, h]
    | ok bs =>
      obtain ⟨b, s'⟩ := bs
      obtain ⟨pw, -, -, -, rfl, rfl⟩ := submit_eq_ok.mp h
      simp [perform, h]
  | retrieve => cases h : s.retrieve c <;> simp [perform, h]
  | _ => simp [perform]

/-- An admitted request leaves the gate alone or initiates shutdown on it. -/
theorem handle_gate (s : Service) (verb path : String) (form : Form) :
    (s.handle verb path form).2.gate = s.gate ∨
      (s.handle verb path form).2.gate = s.gate.initiateShutdown.2 := by
  unfold handle
  cases s.resolve verb path form with
  | error f => exact .inl rfl
  | ok rc =>
    obtain ⟨route, call⟩ := rc
    have hg := perform_gate s route.operation call
    -- counting a timed success touches the statistics only
    simp only
    split <;> simp only [hg] <;> split <;> simp

/-- Whatever the router, a dispatch acts on the gate as a session: a gate that is shutting down
refuses it and is left alone; otherwise the dispatch takes an admission, may initiate shutdown,
and gives the admission back. -/
theorem dispatch_gate (s : Service) (verb path : String) (form : Form) :
    (s.gate.shuttingDown = true ∧ (s.dispatch verb path form).2.gate = s.gate) ∨
      (s.gate.shuttingDown = false ∧ ∃ mid, (mid = [] ∨ mid = [.initiateShutdown]) ∧
        (s.dispatch verb path form).2.gate = s.gate.runOps (.acquire :: mid ++ [.release])) := by
  cases hsd : s.gate.shuttingDown
  · refine .inr ⟨rfl, ?_⟩
    rcases handle_gate { s with gate := s.gate.acquire.2 } verb path form with hg | hg
    · refine ⟨[], .inl rfl, ?_⟩
      simp only [Gate.acquire_of_open hsd] at hg
      simp [dispatch, Gate.acquire_of_open hsd, hg, Gate.runOps, Gate.apply]
    · refine ⟨[.initiateShutdown], .inr rfl, ?_⟩
      simp only [Gate.acquire_of_open hsd] at hg
      simp [dispatch, Gate.acquire_of_open hsd, hg, Gate.runOps, Gate.apply]
  · exact .inl ⟨rfl, by simp [dispatch_of_shuttingDown hsd]⟩

end Service

end DeferredDigest
