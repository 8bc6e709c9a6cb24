import DeferredDigest.Proofs.Session.Steps
import DeferredDigest.Proofs.Worker.Tasks

/-!
# What a dispatch changes

The observable state of a service is its gate (requests in flight, the shutdown flag, the ready
token), the last handle given out, the store, the pending digest tasks and the count of timed
successes.  With the standard routes a dispatch changes it in exactly one of three ways:

* a successful submission gives out the next handle, adds exactly one pending task for it with
  the password's bytes, and counts one more success;
* the shutdown route sets the shutdown flag, and fires the ready signal exactly when no other
  request was in flight;
* everything else changes nothing at all.

Every dispatch gives its admission back, and a service that is shutting down refuses every
request.  So successful submissions are answered with consecutive handles, starting right after
the last one given out (`Service.replies_submittedIds`): from a fresh service the `k`-th
successful submission gets handle `k`.
-/

namespace DeferredDigest

/-- The handle a reply gives out, when it answers a successful submission. -/
def Reply.submittedId? (r : Reply) : Option Nat :=
  match r.body with
  | .submitted id => if r.status = 200 then some id else none
  | _ => none

theorem Reply.submittedId?_eq_none {r : Reply} (h : ∀ id, r ≠ Reply.ok (.submitted id)) :
    r.submittedId? = none := by
  obtain ⟨status, body⟩ := r
  cases body with
  | submitted id =>
    have hs : status ≠ 200 := fun hs => h id (by rw [hs]; rfl)
    simp [submittedId?, hs]
  | _ => rfl

namespace Service

variable {s : Service} {verb path : String} {form : Form}

/-- The replies to requests dispatched one after another, each a verb, a path and a form. -/
def replies (s : Service) : List (String × String × Form) → List Reply
  | [] => []
  | (verb, path, form) :: reqs =>
    (s.dispatch verb path form).1.reply :: (s.dispatch verb path form).2.replies reqs

/-- With the standard routes a dispatch keeps the routes, and either answers the next handle and
records it as the last one, or answers no handle and keeps the last one. -/
theorem dispatch_lastHandle (hr : s.router = Router.standard) (verb path : String) (form : Form) :
    (s.dispatch verb path form).2.router = s.router ∧
      (((s.dispatch verb path form).1.reply.submittedId? = some (s.lastHandle + 1) ∧
          (s.dispatch verb path form).2.lastHandle = s.lastHandle + 1) ∨
        ((s.dispatch verb path form).1.reply.submittedId? = none ∧
          (s.dispatch verb path form).2.lastHandle = s.lastHandle)) := by
  rcases dispatch_cases hr verb path form with ⟨-, pw, -, -, -, -, h⟩ | ⟨-, -, -, h⟩ | ⟨h, hid, -⟩
  · rw [h]
    exact ⟨rfl, .inl ⟨rfl, rfl⟩⟩
  · rw [h]
    exact ⟨rfl, .inr ⟨rfl, rfl⟩⟩
  · rw [h]
    exact ⟨rfl, .inr ⟨Reply.submittedId?_eq_none hid, rfl⟩⟩

/-- Successful submissions are answered with consecutive handles, starting right after the last
handle given out. -/
theorem replies_submittedIds (hr : s.router = Router.standard)
    (reqs : List (String × String × Form)) :
    ∃ k, (s.replies reqs).filterMap Reply.submittedId? = List.range' (s.lastHandle + 1) k := by
  induction reqs generalizing s with
  | nil => exact ⟨0, rfl⟩
  | cons req reqs ih =>
    obtain ⟨verb, path, form⟩ := req
    obtain ⟨hrouter, ⟨hid, hlast⟩ | ⟨hid, hlast⟩⟩ := dispatch_lastHandle hr verb path form
    · obtain ⟨k, hk⟩ := ih (hrouter.trans hr)
      rw [hlast] at hk
      refine ⟨k + 1, ?_⟩
      simp only [replies, List.filterMap_cons, hid, hk, List.range'_succ]
    · obtain ⟨k, hk⟩ := ih (hrouter.trans hr)
      rw [hlast] at hk
      refine ⟨k, ?_⟩
      simp only [replies, List.filterMap_cons, hid, hk]

/-- What a dispatch changes in a service that a script reached from a fresh start, with the
standard routes.  Exactly one of three things happens: a submission through `POST hash` answers
the next handle, makes it the last one, adds exactly one pending task for it with the bytes of the
password field, and counts one more success; or the shutdown route, under either verb, answers
the acknowledgement, sets the shutdown flag and cancels the ready token exactly when no other
request was in flight; or nothing observable changes and the reply is neither of those two.  In
every case the count of requests in flight is the same afterwards, a service that is shutting
down refuses every request, and the successful submissions of any further requests are answered
with the handles that follow the last one, in order. -/
theorem dispatch_changes_one_of_three {s : Service} (hs : s.Reachable)
    (hr : s.router = Router.standard) (verb path : String) (form : Form) :
    let r := s.dispatch verb path form
    ((Verb.ofName? verb = some .post ∧ Path.resolve path = .ok ("hash", []) ∧
        r.1.reply = Reply.ok (.submitted (s.lastHandle + 1)) ∧
        ∃ pw w st, form.get? s.config.passwordField = some pw ∧
          r.2 = { s with lastHandle := s.lastHandle + 1, worker := w, stats := st } ∧
          w.clock = s.worker.clock ∧
          w.pending.Perm (⟨s.lastHandle + 1, pw.toUTF8.toList,
            s.worker.clock + min s.config.hashDelay Worker.horizon⟩ :: s.worker.pending) ∧
          st.count = s.stats.count + 1) ∨
      ((Verb.ofName? verb).isSome ∧ (∃ rest, Path.resolve path = .ok ("shutdown", rest)) ∧
        r.1.reply = Reply.ok (.ack "shutting down") ∧
        ∃ g, r.2 = { s with gate := g } ∧ s.gate.shuttingDown = false ∧ g.shuttingDown = true ∧
          g.outstanding = s.gate.outstanding ∧ g.ready = (s.gate.outstanding == 0)) ∨
      (r.2 = s ∧ (∀ id, r.1.reply ≠ Reply.ok (.submitted id)) ∧
        r.1.reply ≠ Reply.ok (.ack "shutting down"))) ∧
    r.2.gate.outstanding = s.gate.outstanding ∧
    (s.gate.shuttingDown = true → r = (⟨Reply.ofFault .serviceShutdown, none⟩, s)) ∧
    ∀ reqs, ∃ k, (s.replies reqs).filterMap Reply.submittedId? =
      List.range' (s.lastHandle + 1) k := by
  dsimp only
  have hg := hs.coherent
  have hcases := dispatch_cases hr verb path form
  refine ⟨?_, ?_, fun hsd => dispatch_of_shuttingDown hsd verb path form,
    fun reqs => replies_submittedIds hr reqs⟩
  · rcases hcases with ⟨-, pw, hv, hp, hpw, -, h⟩ | ⟨hsd, hv, hp, h⟩ | hc
    · refine .inl ⟨hv, hp, by rw [h], pw,
        s.worker.schedule (s.lastHandle + 1) pw.toUTF8.toList s.config.hashDelay,
        s.stats.record Duration.zero, hpw, by rw [h], Worker.schedule_clock _ _ _, ?_, rfl⟩
      exact Worker.schedule_pending_perm _ _ _
    · -- the shutdown session on a coherent open gate
      obtain ⟨h1, h2, h3⟩ := hg.shutdown_session hsd
      exact .inr (.inl ⟨hv, hp, by rw [h], _, by rw [h], hsd, h1, h2, h3⟩)
    · exact .inr (.inr hc)
  · rcases hcases with ⟨-, pw, -, -, -, -, h⟩ | ⟨hsd, -, -, h⟩ | ⟨h, -⟩
    · rw [h]
    · rw [h]
      exact (hg.shutdown_session hsd).2.1
    · rw [h]

/-- A fresh service with the standard routes, asked for a digest. -/
theorem dispatch_changes_one_of_three_fresh :
    (Service.create {} .lengthTag true).Reachable ∧
    (Service.create {} .lengthTag true).router = Router.standard ∧
    let s := Service.create {} .lengthTag true
    let form : Form := ⟨[("password", "angryMonkey")]⟩
    let r := s.dispatch "POST" "/hash" form
    ((Verb.ofName? "POST" = some .post ∧ Path.resolve "/hash" = .ok ("hash", []) ∧
        r.1.reply = Reply.ok (.submitted (s.lastHandle + 1)) ∧
        ∃ pw w st, form.get? s.config.passwordField = some pw ∧
          r.2 = { s with lastHandle := s.lastHandle + 1, worker := w, stats := st } ∧
          w.clock = s.worker.clock ∧
          w.pending.Perm (⟨s.lastHandle + 1, pw.toUTF8.toList,
            s.worker.clock + min s.config.hashDelay Worker.horizon⟩ :: s.worker.pending) ∧
          st.count = s.stats.count + 1) ∨
      ((Verb.ofName? "POST").isSome ∧ (∃ rest, Path.resolve "/hash" = .ok ("shutdown", rest)) ∧
        r.1.reply = Reply.ok (.ack "shutting down") ∧
        ∃ g, r.2 = { s with gate := g } ∧ s.gate.shuttingDown = false ∧ g.shuttingDown = true ∧
          g.outstanding = s.gate.outstanding ∧ g.ready = (s.gate.outstanding == 0)) ∨
      (r.2 = s ∧ (∀ id, r.1.reply ≠ Reply.ok (.submitted id)) ∧
        r.1.reply ≠ Reply.ok (.ack "shutting down"))) ∧
    r.2.gate.outstanding = s.gate.outstanding ∧
    (s.gate.shuttingDown = true → r = (⟨Reply.ofFault .serviceShutdown, none⟩, s)) ∧
    ∀ reqs, ∃ k, (s.replies reqs).filterMap Reply.submittedId? =
      List.range' (s.lastHandle + 1) k :=
  ⟨⟨{}, .lengthTag, true, [], rfl⟩, rfl,
    dispatch_changes_one_of_three ⟨{}, .lengthTag, true, [], rfl⟩ rfl _ _ _⟩

end Service

end DeferredDigest
