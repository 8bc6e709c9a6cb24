import DeferredDigest.Proofs.Dispatch.Frame
import DeferredDigest.Proofs.Store.Writes
import Mathlib.Data.List.Nodup
import Mathlib.Data.List.Perm.Subperm

/-!
# The ledger of handles

A service gives out handles in order from 1.  At any time each handle given out is in exactly one
place: with a pending digest task, or as a key of the store; and what is stored under it is the
digest of the password submitted under it.  This holds after every step of any script run on a
fresh service that only sends requests, lets time pass and acts on the gate
(`Session.run_ledger`); steps that reach past the requests into the store, the worker or the
routes are left out.

The invariant is `Service.Ledger`: handles, counted successes, pending tasks and stored digests
against the list of accepted submissions.  It has two step lemmas, `Service.Ledger.dispatch` for a
request and `Service.Ledger.complete` for letting pending tasks run; `Session.ledger_next` covers
every kind of step with them and `Session.ledger_run` a whole script.  Since the handle of a
pending task is never stored, the write that stores its digest always takes effect
(`Service.Ledger.writes_succeed`).
-/

namespace DeferredDigest

/-- Whether a step reaches past the requests into the service: a direct write into the store, a
digest scheduled by hand, or new routes. -/
def Step.tampers : Step → Bool
  | .storeInsert .. | .schedule .. | .replaceRoutes _ => true
  | _ => false

namespace Service

/-- The handle a dispatch gives out and the password it was given, when it accepts a
submission. -/
def submission? (s : Service) (verb path : String) (form : Form) : Option (Nat × String) :=
  (s.dispatch verb path form).1.reply.submittedId?.bind fun id =>
    (form.get? s.config.passwordField).map fun pw => (id, pw)

/-- The bookkeeping of a service created with `hasher`, given the submissions it accepted, in
order, each a handle with its password. -/
structure Ledger (v : Service) (hasher : Hasher) (subs : List (Nat × String)) : Prop where
  router_eq : v.router = Router.standard
  hasher_eq : v.hasher = hasher
  count_eq : v.stats.count = v.lastHandle
  /-- The `k`-th accepted submission got handle `k`. -/
  handles_eq : subs.map Prod.fst = List.range' 1 v.lastHandle
  /-- Every handle given out is stored or pending, and only once. -/
  partition :
    (v.store.keys ++ v.worker.pending.map Task.handle).Perm (List.range' 1 v.lastHandle)
  payload : ∀ t ∈ v.worker.pending, ∃ pw, (t.handle, pw) ∈ subs ∧ t.payload = pw.toUTF8.toList
  digest : ∀ e ∈ v.store.entries, ∃ pw, (e.1, pw) ∈ subs ∧ e.2 = hasher.apply pw.toUTF8.toList

variable {v : Service} {hasher : Hasher} {subs : List (Nat × String)}

theorem ledger_create (c : ServiceConfig) (hasher : Hasher) (executor : Bool) :
    (create c hasher executor).Ledger hasher [] := by
  refine ⟨rfl, rfl, rfl, rfl, .refl _, ?_, ?_⟩
  · intro t ht
    cases ht
  · intro e he
    cases he

namespace Ledger

/-- Handles given out are stored or pending, and only once. -/
theorem nodup (hv : v.Ledger hasher subs) :
    (v.store.keys ++ v.worker.pending.map Task.handle).Nodup :=
  hv.partition.nodup_iff.mpr List.nodup_range'

/-- Pending tasks, any of them in any order, have distinct handles, none of them stored. -/
theorem fresh (hv : v.Ledger hasher subs) {done : List Task}
    (hdone : done.Subperm v.worker.pending) :
    ((v.digests done).map Prod.fst).Nodup ∧ ∀ e ∈ v.digests done, e.1 ∉ v.store.keys := by
  have hkeys : (v.digests done).map Prod.fst = done.map Task.handle := by
    simp [digests]
  obtain ⟨l, hl, hsub⟩ := hdone
  have hnd := hv.nodup
  have hpnd : (v.worker.pending.map Task.handle).Nodup := (List.nodup_append.mp hnd).2.1
  refine ⟨?_, ?_⟩
  · rw [hkeys]
    exact (hl.map Task.handle).nodup_iff.mp (hpnd.sublist (hsub.map Task.handle))
  · intro e he hk
    have hd : e.1 ∈ done.map Task.handle := hkeys ▸ List.mem_map_of_mem he
    have hp : e.1 ∈ v.worker.pending.map Task.handle :=
      (hsub.map Task.handle).subset ((hl.map Task.handle).symm.subset hd)
    exact List.disjoint_of_nodup_append hnd hk hp

/-- Writing the digests of pending tasks, any of them in any order, never finds a handle already
stored. -/
theorem writes_succeed (hv : v.Ledger hasher subs) {done : List Task}
    (hdone : done.Subperm v.worker.pending) :
    ∀ b ∈ (v.store.insertAll (v.digests done)).1, b = true := by
  obtain ⟨hnd, hfresh⟩ := hv.fresh hdone
  exact (Store.insertAll_fresh hnd hfresh).1

/-- The gate is no part of the ledger. -/
theorem withGate (hv : v.Ledger hasher subs) (g : Gate) : { v with gate := g }.Ledger hasher subs :=
  ⟨hv.router_eq, hv.hasher_eq, hv.count_eq, hv.handles_eq, hv.partition, hv.payload, hv.digest⟩

/-- An accepted submission: the next handle goes to a new pending task with the password's bytes,
and one more success is counted. -/
theorem submit (hv : v.Ledger hasher subs) (pw : String) :
    { v with lastHandle := v.lastHandle + 1
             worker := v.worker.schedule (v.lastHandle + 1) pw.toUTF8.toList v.config.hashDelay
             stats := v.stats.record Duration.zero }.Ledger hasher
      (subs ++ [(v.lastHandle + 1, pw)]) := by
  have hrange : List.range' 1 (v.lastHandle + 1) = List.range' 1 v.lastHandle ++ [v.lastHandle + 1] := by
    rw [List.range'_concat, Nat.one_mul, Nat.add_comm 1]
  have hpend := Worker.schedule_pending_perm (w := v.worker) (v.lastHandle + 1) pw.toUTF8.toList
    v.config.hashDelay
  refine ⟨hv.router_eq, hv.hasher_eq, ?_, ?_, ?_, ?_, ?_⟩
  · show v.stats.count + 1 = v.lastHandle + 1
    rw [hv.count_eq]
  · show (subs ++ [(v.lastHandle + 1, pw)]).map Prod.fst = List.range' 1 (v.lastHandle + 1)
    rw [List.map_append, hv.handles_eq, hrange]
    rfl
  · -- the new handle joins the pending ones
    show (v.store.keys ++ _).Perm (List.range' 1 (v.lastHandle + 1))
    have h1 : (v.store.keys ++ (v.worker.schedule (v.lastHandle + 1) pw.toUTF8.toList
        v.config.hashDelay).pending.map Task.handle).Perm
        (v.store.keys ++ (v.lastHandle + 1) :: v.worker.pending.map Task.handle) :=
      (hpend.map Task.handle).append_left _
    have h2 := hv.partition.cons (v.lastHandle + 1)
    rw [hrange]
    exact h1.trans (List.perm_middle.trans (h2.trans (List.perm_append_singleton _ _).symm))
  · intro t ht
    rcases List.mem_cons.mp (hpend.subset ht) with rfl | ht
    · exact ⟨pw, List.mem_append_right _ List.mem_cons_self, rfl⟩
    · obtain ⟨p, hp, hpay⟩ := hv.payload t ht
      exact ⟨p, List.mem_append_left _ hp, hpay⟩
  · intro e he
    obtain ⟨p, hp, hd⟩ := hv.digest e he
    exact ⟨p, List.mem_append_left _ hp, hd⟩

/-- A dispatch adds the submission it accepts, if any, and keeps the ledger. -/
theorem dispatch (hv : v.Ledger hasher subs) (verb path : String) (form : Form) :
    (v.dispatch verb path form).2.Ledger hasher (subs ++ (v.submission? verb path form).toList) := by
  rcases dispatch_cases hv.router_eq verb path form with
    ⟨-, pw, -, -, hpw, -, h⟩ | ⟨-, -, -, h⟩ | ⟨h, hid, -⟩
  · have hsub : v.submission? verb path form = some (v.lastHandle + 1, pw) := by
      simp [submission?, h, hpw, Reply.submittedId?, Reply.ok]
    rw [hsub, h]
    exact hv.submit pw
  · have hsub : v.submission? verb path form = none := by
      simp [submission?, h, Reply.submittedId?, Reply.ok]
    rw [hsub, h, Option.toList_none, List.append_nil]
    exact hv.withGate _
  · have hsub : v.submission? verb path form = none := by
      simp [submission?, Reply.submittedId?_eq_none hid]
    rw [hsub, h, Option.toList_none, List.append_nil]
    exact hv

/-- Letting pending tasks run: the digests of those that ran are stored, the others stay
pending. -/
theorem complete (hv : v.Ledger hasher subs) {done : List Task} {w : Worker}
    (hsplit : (done ++ w.pending).Perm v.worker.pending) :
    ({ v with worker := w }.complete done).Ledger hasher subs := by
  have hdone : done.Subperm v.worker.pending :=
    (List.sublist_append_left done w.pending).subperm.trans hsplit.subperm
  obtain ⟨hnd, hfresh⟩ := hv.fresh hdone
  have hstore := (Store.insertAll_fresh hnd hfresh).2
  have hkeys : (v.store.insertAll (v.digests done)).2.keys.Perm
      (done.map Task.handle ++ v.store.keys) := by
    simpa [Store.keys, digests, Function.comp_def] using hstore.map Prod.fst
  refine ⟨hv.router_eq, hv.hasher_eq, hv.count_eq, hv.handles_eq, ?_, ?_, ?_⟩
  · -- the handles that ran move from the pending tasks to the store
    show ((v.store.insertAll (v.digests done)).2.keys ++ w.pending.map Task.handle).Perm _
    have h1 := hkeys.append_right (w.pending.map Task.handle)
    have h2 : (done.map Task.handle ++ v.store.keys ++ w.pending.map Task.handle).Perm
        (v.store.keys ++ (done ++ w.pending).map Task.handle) := by
      rw [List.map_append, ← List.append_assoc]
      exact List.perm_append_comm.append_right _
    have h3 := (hsplit.map Task.handle).append_left v.store.keys
    exact h1.trans (h2.trans (h3.trans hv.partition))
  · intro t ht
    exact hv.payload t (hsplit.subset (List.mem_append_right done ht))
  · intro e he
    rcases List.mem_append.mp (hstore.subset he) with he | he
    · -- a digest just written, of a task that ran
      obtain ⟨t, ht, rfl⟩ := List.mem_map.mp he
      obtain ⟨pw, hpw, hpay⟩ := hv.payload t (hsplit.subset (List.mem_append_left _ ht))
      refine ⟨pw, hpw, ?_⟩
      show v.hasher.apply t.payload = hasher.apply pw.toUTF8.toList
      rw [hv.hasher_eq, hpay]
    · exact hv.digest e he

end Ledger

end Service

namespace Session

variable {s : Session} {hasher : Hasher} {subs : List (Nat × String)} {st : Step}
  {verb path : String} {form : Form}

/-- The submission a step makes: the handle and the password of the request it hands to the
service, when the service accepts it. -/
def submission? (s : Session) (st : Step) : Option (Nat × String) :=
  (s.request? st).bind fun (verb, path, form) => s.service.submission? verb path form

/-- The submissions a script makes, in the order they are accepted. -/
def submissions (s : Session) : List Step → List (Nat × String)
  | [] => []
  | st :: sts => (s.submission? st).toList ++ (s.next st).submissions sts

/-- A step that hands no request to the service and does not tamper keeps the ledger: it lets
pending tasks run, acts on the gate, or changes nothing. -/
theorem ledger_next_of_request? (hv : s.service.Ledger hasher subs) (hst : st.tampers = false)
    (h : s.request? st = none) : (s.next st).service.Ledger hasher subs := by
  cases st with
  | dispatch verb path form => cases h
  | http req =>
    rw [service_next_http_of_request? h]
    exact hv
  | advance ms =>
    rw [service_next_advance]
    split
    · exact hv.complete (Worker.runUntil_perm (w := s.service.worker) _)
    · exact hv
  | drain =>
    rw [service_next_drain]
    split
    · exact hv.complete (Worker.runUntil_perm (w := s.service.worker) _)
    · exact hv
  | drainFor ms =>
    rw [service_next_drainFor]
    split
    · obtain ⟨t, ht⟩ := Worker.drainFor_eq (w := s.service.worker) ms
      show ({ s.service with worker := (s.service.worker.drainFor ms).2.2 }.complete
        (s.service.worker.drainFor ms).2.1).Ledger hasher subs
      rw [ht]
      exact hv.complete (Worker.runUntil_perm _)
    · exact hv
  | acquire => exact hv.withGate _
  | release => exact hv.withGate _
  | initiateShutdown => exact hv.withGate _
  | hold =>
    rw [service_next_hold]
    exact hv.withGate _
  | letGo =>
    rcases service_next_letGo (s := s) with h' | h'
    · rw [h']
      exact hv
    · rw [h']
      exact hv.withGate _
  | storeInsert => cases hst
  | schedule => cases hst
  | replaceRoutes => cases hst
  | storeGet handle =>
    rw [next_of_query (.inl ⟨handle, rfl⟩)]
    exact hv
  | executor =>
    rw [next_of_query (.inr (.inl rfl))]
    exact hv
  | observe =>
    rw [next_of_query (.inr (.inr rfl))]
    exact hv

/-- One step that does not tamper keeps the ledger, with the submission it makes added. -/
theorem ledger_next (hv : s.service.Ledger hasher subs) (hst : st.tampers = false) :
    (s.next st).service.Ledger hasher (subs ++ (s.submission? st).toList) := by
  cases h : s.request? st with
  | none =>
    rw [submission?, h, Option.bind_none, Option.toList_none, List.append_nil]
    exact ledger_next_of_request? hv hst h
  | some r =>
    obtain ⟨verb, path, form⟩ := r
    rw [submission?, h, Option.bind_some, service_next_of_request? h]
    exact hv.dispatch verb path form

/-- A script that does not tamper keeps the ledger, with the submissions it makes added in
order. -/
theorem ledger_run (hv : s.service.Ledger hasher subs) {sts : List Step}
    (hsts : ∀ st ∈ sts, st.tampers = false) :
    (s.run sts).service.Ledger hasher (subs ++ s.submissions sts) := by
  -- induction on the script, for every session and every list of submissions so far
  induction sts generalizing s subs with
  | nil =>
    rw [submissions, List.append_nil]
    exact hv
  | cons st sts ih =>
    have hnext := ledger_next hv (hsts st List.mem_cons_self)
    have hrest := ih hnext fun st' h => hsts st' (List.mem_cons_of_mem _ h)
    rw [run_cons, submissions, ← List.append_assoc]
    exact hrest

/-- The ledger of handles, after any script of requests, passing time and gate operations run on a
fresh service, with an executor or without.  The handles given out, the successes counted and the
accepted submissions agree, and the store and the pending tasks share them out: each handle is
stored or pending and never both.  Every stored digest is the digest of the password submitted
under its handle, and every pending task carries that password's bytes.  So the digests of
pending tasks, any of them in any order, are all written, none finding its handle already
stored. -/
theorem run_ledger (c : ServiceConfig) (hasher : Hasher) (executor : Bool) (sts : List Step)
    (hsts : ∀ st ∈ sts, st.tampers = false) :
    let v := ((start c hasher executor).run sts).service
    let subs := (start c hasher executor).submissions sts
    v.lastHandle = v.stats.count ∧ v.stats.count = v.store.size + v.worker.pending.length ∧
    subs.map Prod.fst = List.range' 1 v.lastHandle ∧
    (∀ h, v.store.contains h = true → h ∉ v.worker.pending.map Task.handle) ∧
    (∀ h, (v.store.contains h = true ∨ h ∈ v.worker.pending.map Task.handle) ↔
      1 ≤ h ∧ h ≤ v.lastHandle) ∧
    (∀ h d, v.store.get? h = some d → ∃ pw, (h, pw) ∈ subs ∧ d = hasher.apply pw.toUTF8.toList) ∧
    (∀ t ∈ v.worker.pending, ∃ pw, (t.handle, pw) ∈ subs ∧ t.payload = pw.toUTF8.toList) ∧
    ∀ done, done.Subperm v.worker.pending →
      ∀ b ∈ (v.store.insertAll (v.digests done)).1, b = true := by
  intro v subs
  have hv : v.Ledger hasher subs := by
    have h := ledger_run (s := start c hasher executor) (Service.ledger_create c hasher executor)
      hsts
    rwa [List.nil_append] at h
  have hnd := hv.nodup
  have hcount := hv.count_eq
  have hlen := hv.partition.length_eq
  rw [List.length_append, Store.length_keys, List.length_map, List.length_range'] at hlen
  refine ⟨hv.count_eq.symm, by omega, hv.handles_eq, ?_, ?_, ?_, hv.payload,
    fun done hdone => hv.writes_succeed hdone⟩
  · intro h hk hp
    exact List.disjoint_of_nodup_append hnd (Store.contains_iff.mp hk) hp
  · intro h
    rw [Store.contains_iff, ← List.mem_append, hv.partition.mem_iff, List.mem_range'_1]
    omega
  · intro h d hg
    exact hv.digest (h, d) (Store.mem_entries_of_get? hg)

/-- A fresh service with an executor, asked for a digest and then given five seconds. -/
theorem run_ledger_submit_then_advance :
    (∀ st ∈ [Step.dispatch "POST" "/hash" ⟨[("password", "angryMonkey")]⟩, Step.advance 5000],
      st.tampers = false) ∧
    let sts := [Step.dispatch "POST" "/hash" ⟨[("password", "angryMonkey")]⟩, Step.advance 5000]
    let v := ((start {} .lengthTag true).run sts).service
    let subs := (start {} .lengthTag true).submissions sts
    v.lastHandle = v.stats.count ∧ v.stats.count = v.store.size + v.worker.pending.length ∧
    subs.map Prod.fst = List.range' 1 v.lastHandle ∧
    (∀ h, v.store.contains h = true → h ∉ v.worker.pending.map Task.handle) ∧
    (∀ h, (v.store.contains h = true ∨ h ∈ v.worker.pending.map Task.handle) ↔
      1 ≤ h ∧ h ≤ v.lastHandle) ∧
    (∀ h d, v.store.get? h = some d →
      ∃ pw, (h, pw) ∈ subs ∧ d = Hasher.lengthTag.apply pw.toUTF8.toList) ∧
    (∀ t ∈ v.worker.pending, ∃ pw, (t.handle, pw) ∈ subs ∧ t.payload = pw.toUTF8.toList) ∧
    ∀ done, done.Subperm v.worker.pending →
      ∀ b ∈ (v.store.insertAll (v.digests done)).1, b = true :=
  ⟨by decide, run_ledger {} .lengthTag true _ (by decide)⟩

end Session

end DeferredDigest
