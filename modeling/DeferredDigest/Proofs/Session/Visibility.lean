import DeferredDigest.Proofs.Session.Progress
import DeferredDigest.Proofs.Dispatch.Retrieval

/-!
# When a digest can be read

A digest submitted at clock time `t` falls due at `t + min d horizon`, `d` the configured delay:
the runtime's timer cannot wait longer than thirty years, so for every delay up to that the digest
falls due at `t + d`.  Along any script run on a fresh service with an executor
that only sends requests, lets time pass and acts on the gate, `GET /hash/h` for a submitted
handle `h` is not found while the clock is before the due time, and is found with the digest of the
submitted password from the first drain on, or from the first step that lets time pass up to the
due time or past it.  A handle that no submission was given is never found.  A service that is
shutting down answers every request that it is, found or not.

The argument is the ledger of handles (`Service.Ledger`): a pending task's handle has nothing
stored under it, and a stored handle holds the digest of the password submitted under it.  What
moves a task from pending to stored is time reaching its due time (`Service.Moves`).

Main statement: `Session.shows_digests_when_due`.
-/

namespace DeferredDigest

namespace Service.Ledger

variable {v : Service} {hasher : Hasher} {subs : List (Nat × String)}

/-- Under the standard routes, `GET hash` is a retrieval. -/
theorem retrieves (hv : v.Ledger hasher subs) :
    (v.router.lookup .get "hash").map Route.operation = some .retrieve := by
  rw [hv.router_eq]
  rfl

/-- A pending task's handle has nothing stored under it. -/
theorem get?_of_pending (hv : v.Ledger hasher subs) {t : Task} (ht : t ∈ v.worker.pending) :
    v.store.get? t.handle = none :=
  Store.get?_eq_none fun hk => List.disjoint_of_nodup_append hv.nodup hk (List.mem_map_of_mem ht)

/-- A handle that no submission was given has nothing stored under it. -/
theorem get?_of_unissued (hv : v.Ledger hasher subs) {n : Nat} (hn : n ∉ subs.map Prod.fst) :
    v.store.get? n = none := by
  cases hg : v.store.get? n with
  | none => rfl
  | some d =>
    obtain ⟨pw, hpw, -⟩ := hv.digest (n, d) (Store.mem_entries_of_get? hg)
    exact absurd (List.mem_map_of_mem (f := Prod.fst) hpw) hn

/-- A stored handle holds the digest of the password submitted under it. -/
theorem get?_of_stored (hv : v.Ledger hasher subs) {h : Nat} {pw : String} (hsub : (h, pw) ∈ subs)
    (hk : h ∈ v.store.keys) : v.store.get? h = some (hasher.apply pw.toUTF8.toList) := by
  obtain ⟨d, hd⟩ := Store.exists_get?_of_mem hk
  obtain ⟨pw', hpw', rfl⟩ := hv.digest (h, d) (Store.mem_entries_of_get? hd)
  -- handles are given out once, so a handle names one submission
  have hnd : (subs.map Prod.fst).Nodup := hv.handles_eq ▸ List.nodup_range'
  have heq : (h, pw') = (h, pw) := List.inj_on_of_nodup_map hnd hpw' hsub rfl
  rw [hd, (Prod.mk.inj heq).2]

end Service.Ledger

namespace Session

variable {s : Session} {hasher : Hasher} {subs : List (Nat × String)} {st vis : Step}
  {mid mid₁ mid₂ : List Step} {h : Nat} {pw : String}

/-- The ledger of a script run on a fresh service, over the submissions it makes. -/
theorem ledger_start_run (c : ServiceConfig) (hasher : Hasher) (e : Bool) {sts : List Step}
    (hsts : ∀ st ∈ sts, st.tampers = false) :
    ((start c hasher e).run sts).service.Ledger hasher ((start c hasher e).submissions sts) := by
  simpa using ledger_run (s := start c hasher e) (Service.ledger_create c hasher e) hsts

/-- After a script that does not tamper, `GET /hash/n` is the store's reply for `n` unless the
service is shutting down. -/
theorem dispatch_get_printed_run {c : ServiceConfig} {e : Bool} {sts : List Step} {n : Nat}
    (hsts : ∀ st ∈ sts, st.tampers = false) (hn : n ≤ Decimal.u64Max) (form : Form) :
    (((start c hasher e).run sts).service.dispatch "GET" ("/hash/" ++ toString n) form).1.reply =
      if ((start c hasher e).run sts).service.gate.shuttingDown then Reply.ofFault .serviceShutdown
      else ((start c hasher e).run sts).service.store.reply n :=
  Service.dispatch_get_printed (ledger_start_run c hasher e hsts).retrieves hn

/-- The task that an accepted submission schedules: the password's bytes under the handle, due
after the configured delay or at the horizon, whichever is sooner. -/
def submittedTask (v : Service) (h : Nat) (pw : String) : Task :=
  ⟨h, pw.toUTF8.toList, v.worker.clock + min v.config.hashDelay Worker.horizon⟩

/-- Along a script that does not tamper the delay stays the configured one. -/
theorem due_submittedTask_run {c : ServiceConfig} {e : Bool} {pre : List Step}
    (hpre : ∀ st ∈ pre, st.tampers = false) :
    (submittedTask ((start c hasher e).run pre).service h pw).due =
      ((start c hasher e).run pre).service.worker.clock + min c.hashDelay Worker.horizon := by
  rw [submittedTask, (moves_run hpre).config_eq]
  rfl

/-- A step that makes a submission has an executor to run it and leaves its task pending. -/
theorem submission?_schedules (hv : s.service.Ledger hasher subs)
    (hsub : s.submission? st = some (h, pw)) :
    s.service.executor = true ∧ submittedTask s.service h pw ∈ (s.next st).service.worker.pending := by
  obtain ⟨⟨verb, path, form⟩, hreq, hs⟩ := Option.bind_eq_some_iff.mp hsub
  rw [service_next_of_request? hreq]
  rcases Service.dispatch_cases hv.router_eq verb path form with
    ⟨-, pw', -, -, hpw, hex, hd⟩ | ⟨-, -, -, hd⟩ | ⟨-, hid, -⟩
  · -- the accepted submission gives out the next handle, with the form's password
    simp only [Service.submission?, hd, hpw, Reply.submittedId?, Reply.ok, Option.map_some] at hs
    obtain ⟨rfl, rfl⟩ := hs
    rw [hd]
    exact ⟨hex, (Worker.schedule_pending_perm _ _ _).symm.subset List.mem_cons_self⟩
  · simp [Service.submission?, hd, Reply.submittedId?, Reply.ok] at hs
  · simp [Service.submission?, Reply.submittedId?_eq_none hid] at hs

/-- Before its due time a submitted handle has nothing stored under it. -/
theorem get?_before_due (hv : s.service.Ledger hasher subs) (hst : st.tampers = false)
    (hmid : ∀ st' ∈ mid, st'.tampers = false) (hsub : s.submission? st = some (h, pw))
    (hlt : ((s.next st).run mid).service.worker.clock < (submittedTask s.service h pw).due) :
    ((s.next st).run mid).service.store.get? h = none := by
  have ht := (submission?_schedules hv hsub).2
  have hv' := ledger_run (ledger_next hv hst) hmid
  rcases (moves_run hmid).pending _ ht with hp | ⟨hdue, -⟩
  · exact hv'.get?_of_pending hp
  · exact absurd hdue (Nat.not_le_of_lt hlt)

/-- A step that lets time pass to the due time of a pending task, or a drain, stores its
digest. -/
theorem stores_once_due {t : Task} (he : s.service.executor = true)
    (ht : t ∈ s.service.worker.pending)
    (hvis : vis = .drain ∨ ∃ ms, (vis = .advance ms ∨ vis = .drainFor ms) ∧
      t.due ≤ (s.next vis).service.worker.clock) :
    t.handle ∈ (s.next vis).service.store.keys := by
  have hkind : vis = .drain ∨ ∃ ms, vis = .advance ms ∨ vis = .drainFor ms := by
    rcases hvis with rfl | ⟨ms, hms, -⟩
    · exact .inl rfl
    · exact .inr ⟨ms, hms⟩
  obtain ⟨T, hT, hdrain⟩ := next_runTo he hkind
  rw [hT]
  apply Service.runTo_stores ht
  rcases hvis with rfl | ⟨ms, -, hdue⟩
  · rw [hdrain rfl]
    exact Worker.due_le_lastDue ht
  · rwa [hT, Service.runTo_clock] at hdue

/-- After a drain, or after a step that lets time pass to the due time or past it, a submitted
handle holds the digest of its password, whatever steps follow. -/
theorem get?_once_due (hv : s.service.Ledger hasher subs)
    (hsts : ∀ st' ∈ st :: (mid₁ ++ vis :: mid₂), st'.tampers = false)
    (hsub : s.submission? st = some (h, pw))
    (hvis : vis = .drain ∨ ∃ ms, (vis = .advance ms ∨ vis = .drainFor ms) ∧
      (submittedTask s.service h pw).due ≤ (((s.next st).run mid₁).next vis).service.worker.clock) :
    ((s.next st).run (mid₁ ++ vis :: mid₂)).service.store.get? h =
      some (hasher.apply pw.toUTF8.toList) := by
  obtain ⟨he, ht⟩ := submission?_schedules hv hsub
  simp only [List.forall_mem_cons, List.forall_mem_append] at hsts
  obtain ⟨hst, hmid₁, hvis', hmid₂⟩ := hsts
  rw [run_append, run_cons]
  have hm₁ := moves_run (s := s.next st) hmid₁
  have he₁ : ((s.next st).run mid₁).service.executor = true := by
    rw [hm₁.executor_eq, (moves_next hst).executor_eq, he]
  have hstored : h ∈ (((s.next st).run mid₁).next vis).service.store.keys := by
    rcases hm₁.pending _ ht with hp | ⟨-, hk⟩
    · exact stores_once_due he₁ hp hvis
    · exact (moves_next hvis').stored _ hk
  have hkeys := (moves_run (s := ((s.next st).run mid₁).next vis) hmid₂).stored h hstored
  have hv' := ledger_run (ledger_next (ledger_run (ledger_next hv hst) hmid₁) hvis') hmid₂
  exact hv'.get?_of_stored (by simp [hsub]) hkeys

/-- What `GET /hash/n` answers, `n` written in decimal, along the scripts run on a fresh service
with an executor, settings `c` and digest rule `hasher`, that only send requests, let time pass
and act on the gate. -/
structure ShowsDigestsWhenDue (c : ServiceConfig) (hasher : Hasher) : Prop where
  /-- A handle that no submission was given is not found. -/
  unissued : ∀ sts, (∀ st ∈ sts, st.tampers = false) → ∀ n, n ≤ Decimal.u64Max →
    n ∉ ((start c hasher true).submissions sts).map Prod.fst → ∀ form,
    (((start c hasher true).run sts).service.dispatch "GET" ("/hash/" ++ toString n) form).1.reply =
      if ((start c hasher true).run sts).service.gate.shuttingDown then
        Reply.ofFault .serviceShutdown
      else Reply.ofFault (.notFound n)
  /-- A handle submitted at clock time `t` is not found while the clock is before
  `t + min d horizon`. -/
  early : ∀ pre st mid h pw, (∀ st' ∈ pre ++ st :: mid, st'.tampers = false) →
    ((start c hasher true).run pre).submission? st = some (h, pw) → h ≤ Decimal.u64Max →
    ((start c hasher true).run (pre ++ st :: mid)).service.worker.clock <
      ((start c hasher true).run pre).service.worker.clock + min c.hashDelay Worker.horizon →
    ∀ form,
    (((start c hasher true).run (pre ++ st :: mid)).service.dispatch "GET"
        ("/hash/" ++ toString h) form).1.reply =
      if ((start c hasher true).run (pre ++ st :: mid)).service.gate.shuttingDown then
        Reply.ofFault .serviceShutdown
      else Reply.ofFault (.notFound h)
  /-- After a drain, or after an advance or a bounded drain that ends at `t + min d horizon` or
  later, it is found with the digest of its password, at every later step. -/
  shown : ∀ pre st mid₁ vis mid₂ h pw,
    (∀ st' ∈ pre ++ st :: (mid₁ ++ vis :: mid₂), st'.tampers = false) →
    ((start c hasher true).run pre).submission? st = some (h, pw) → h ≤ Decimal.u64Max →
    (vis = .drain ∨ ∃ ms, (vis = .advance ms ∨ vis = .drainFor ms) ∧
      ((start c hasher true).run pre).service.worker.clock + min c.hashDelay Worker.horizon ≤
        (((start c hasher true).run (pre ++ st :: mid₁)).next vis).service.worker.clock) →
    ∀ form,
    (((start c hasher true).run (pre ++ st :: (mid₁ ++ vis :: mid₂))).service.dispatch "GET"
        ("/hash/" ++ toString h) form).1.reply =
      if ((start c hasher true).run (pre ++ st :: (mid₁ ++ vis :: mid₂))).service.gate.shuttingDown
      then Reply.ofFault .serviceShutdown
      else Reply.ok (.digest h (hasher.apply pw.toUTF8.toList))

/-- Along every script of requests, passing time and gate operations on a fresh service with an
executor, a submitted digest is not found before its due time and is found, with the digest of the
submitted password, from the first step that lets time pass up to its due time on; a handle never
given out is never found; and a service that is shutting down refuses every lookup. -/
theorem shows_digests_when_due (c : ServiceConfig) (hasher : Hasher) :
    ShowsDigestsWhenDue c hasher := by
  refine ⟨fun sts hsts n hn hnot form => ?_, fun pre st mid h pw hsts hsub hh hlt form => ?_,
    fun pre st mid₁ vis mid₂ h pw hsts hsub hh hvis form => ?_⟩
  · rw [dispatch_get_printed_run hsts hn,
      Store.reply_of_none ((ledger_start_run c hasher true hsts).get?_of_unissued hnot)]
  · have hpre : ∀ st' ∈ pre, st'.tampers = false := fun st' h' => hsts st' (by simp [h'])
    rw [run_append, run_cons, ← due_submittedTask_run hpre] at hlt
    have hget := get?_before_due (ledger_start_run c hasher true hpre) (hsts st (by simp))
      (fun st' (h' : st' ∈ mid) => hsts st' (by simp [h'])) hsub hlt
    rw [dispatch_get_printed_run hsts hh, run_append, run_cons, Store.reply_of_none hget]
  · have hpre : ∀ st' ∈ pre, st'.tampers = false := fun st' h' => hsts st' (by simp [h'])
    rw [run_append, run_cons, ← due_submittedTask_run hpre] at hvis
    have hget := get?_once_due (ledger_start_run c hasher true hpre)
      (fun st' h' => hsts st' (List.mem_append_right _ h')) hsub hvis
    rw [dispatch_get_printed_run hsts hh, run_append, run_cons, Store.reply_of_some hget]

/-- A run in which a lookup is not answered "not found" although the clock is before the time of
the submission plus its delay: a password submitted at time 0 under handle 1, then a shutdown, and
the service refuses the lookup. -/
theorem lookup_refused_while_shutting_down :
    let pre : List Step := []
    let st := Step.dispatch "POST" "/hash" ⟨[("password", "pw")]⟩
    let v := ((start {} .lengthTag true).run (pre ++ [st, .dispatch "POST" "/shutdown" {}])).service
    ((start {} .lengthTag true).run pre).submission? st = some (1, "pw") ∧
      ((start {} .lengthTag true).run pre).service.worker.clock = 0 ∧
      v.worker.clock < 0 + 5000 ∧
      (v.dispatch "GET" "/hash/1" {}).1.reply = Reply.ofFault .serviceShutdown := by
  decide +kernel

end Session

end DeferredDigest
