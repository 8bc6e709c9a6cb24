import DeferredDigest.Proofs.Dispatch.Routing
import DeferredDigest.Proofs.Text.Numerals

/-!
# Retrieval

How a service that routes `GET hash` to retrieval answers `GET hash/q`, for every qualifier and
every store.  The path must carry exactly one piece after the method, whatever the pieces hold;
the piece must spell an unsigned 64-bit value (`Decimal.parseBounded?_eq_some_iff`); and the value
is looked up in the store, so that every spelling of a value, leading zeros and a `+` included, is
answered as its canonical decimal text.  A service that is shutting down refuses every request
before any of this.

Main statement: `Service.get_hash_reads_handles`.
-/

namespace DeferredDigest

/-- The reply to a lookup of handle `n`: the digest stored under it, or not found. -/
def Store.reply (st : Store) (n : Nat) : Reply :=
  match st.get? n with
  | some d => Reply.ok (.digest n d)
  | none => Reply.ofFault (.notFound n)

theorem Store.reply_of_none {st : Store} {n : Nat} (h : st.get? n = none) :
    st.reply n = Reply.ofFault (.notFound n) := by
  simp [Store.reply, h]

theorem Store.reply_of_some {st : Store} {n : Nat} {d : String} (h : st.get? n = some d) :
    st.reply n = Reply.ok (.digest n d) := by
  simp [Store.reply, h]

/-- The store answers with a digest or not found, never with an invalid handle. -/
theorem Store.reply_ne_invalidHandle (st : Store) (n : Nat) (q : String) :
    st.reply n ≠ Reply.ofFault (.invalidHandle q) := by
  unfold Store.reply
  split
  · exact fun h => Reply.ofFault_ne_ok _ _ h.symm
  · simp [Reply.ofFault, Fault.status]

theorem Path.hash_eq_intercalate (q : String) : "/hash/" ++ q = "/".intercalate ["", "hash", q] := by
  apply String.toList_inj.mp
  simp

namespace Service

variable {v : Service} {c : Call} {q : String} {form : Form}

/-! ## The retrieval operation -/

theorem qualifier_eq_none (h : c.rest.length ≠ 1) : c.qualifier = none := by
  unfold Call.qualifier
  split
  · rename_i q hq
    simp [hq] at h
  · rfl

theorem retrieve_of_qualifier_none (h : c.qualifier = none) :
    v.retrieve c = .error (.malformedPath ("expected /" ++ c.method ++ "/<id>")) := by
  simp [retrieve, h]

theorem retrieve_of_invalid (h : c.qualifier = some q) (hp : Decimal.parseU64? q = none) :
    v.retrieve c = .error (.invalidHandle q) := by
  simp [retrieve, h, hp]

/-- A qualifier that reads as a value is answered with the store's reply for that value. -/
theorem retrieve_of_numeral {n : Nat} (h : c.qualifier = some q)
    (hp : Decimal.parseU64? q = some n) :
    (match v.retrieve c with
      | .ok b => Reply.ok b
      | .error f => Reply.ofFault f) = v.store.reply n := by
  cases hd : v.store.get? n <;> simp [retrieve, h, hp, hd, Store.reply, pure, Except.pure]

/-! ## Through the dispatch -/

/-- An admitted `GET` whose path names the method `hash` is answered by retrieval, on the pieces
after the method. -/
theorem dispatch_get_hash {path : String} {rs : List String}
    (hr : (v.router.lookup .get "hash").map Route.operation = some .retrieve)
    (hg : v.gate.shuttingDown = false) (hp : Path.resolve path = .ok ("hash", rs)) :
    (v.dispatch "GET" path form).1.reply =
      match v.retrieve ⟨.get, "hash", rs, form⟩ with
      | .ok b => Reply.ok b
      | .error f => Reply.ofFault f := by
  obtain ⟨r, hl, hop⟩ := Option.map_eq_some_iff.mp hr
  have hres : v.resolve "GET" path form = .ok (r, ⟨.get, "hash", rs, form⟩) :=
    resolve_eq_ok_iff.mpr ⟨.get, "hash", rs, rfl, hp, hl, rfl⟩
  rw [dispatch_of_resolve_ok hg hres, hop]
  -- retrieval reads the store only, which the admission leaves alone
  have hret : ({ v with gate := v.gate.acquire.2 } : Service).retrieve ⟨.get, "hash", rs, form⟩ =
      v.retrieve ⟨.get, "hash", rs, form⟩ := rfl
  simp only [perform, hret]
  cases v.retrieve ⟨.get, "hash", rs, form⟩ <;> rfl

theorem resolve_hash_qualifier (hq : '/' ∉ q.toList) :
    Path.resolve ("/hash/" ++ q) = .ok ("hash", [q]) := by
  rw [Path.hash_eq_intercalate]
  exact Path.resolve_eq_ok_iff.mpr ⟨"", by simp, by decide, by simpa using hq, rfl⟩

/-- An admitted `GET /hash/q` is an invalid handle when `q` does not read as a value, and the
store's reply for the value when it does. -/
theorem dispatch_get_qualifier
    (hr : (v.router.lookup .get "hash").map Route.operation = some .retrieve)
    (hg : v.gate.shuttingDown = false) (hq : '/' ∉ q.toList) :
    (v.dispatch "GET" ("/hash/" ++ q) form).1.reply =
      match Decimal.parseU64? q with
      | none => Reply.ofFault (.invalidHandle q)
      | some n => v.store.reply n := by
  rw [dispatch_get_hash hr hg (resolve_hash_qualifier hq)]
  cases hp : Decimal.parseU64? q with
  | none => rw [retrieve_of_invalid rfl hp]
  | some n => exact retrieve_of_numeral rfl hp

/-- `GET /hash/q`, for a qualifier that reads as the value `n`, is refused while the service shuts
down and is otherwise the store's reply for `n`. -/
theorem dispatch_get_numeral {n : Nat}
    (hr : (v.router.lookup .get "hash").map Route.operation = some .retrieve)
    (hq : '/' ∉ q.toList) (hp : Decimal.parseU64? q = some n) :
    (v.dispatch "GET" ("/hash/" ++ q) form).1.reply =
      if v.gate.shuttingDown then Reply.ofFault .serviceShutdown else v.store.reply n := by
  cases hg : v.gate.shuttingDown
  · rw [dispatch_get_qualifier hr hg hq, hp]
    rfl
  · simp [dispatch_of_shuttingDown hg]

/-- `GET /hash/n`, with `n` a 64-bit value in canonical decimal, is refused while the service
shuts down and is otherwise the store's reply for `n`. -/
theorem dispatch_get_printed {n : Nat}
    (hr : (v.router.lookup .get "hash").map Route.operation = some .retrieve)
    (hn : n ≤ Decimal.u64Max) :
    (v.dispatch "GET" ("/hash/" ++ toString n) form).1.reply =
      if v.gate.shuttingDown then Reply.ofFault .serviceShutdown else v.store.reply n := by
  have hq : '/' ∉ (toString n).toList := fun hmem =>
    absurd (Decimal.isDigit_of_mem_toString hmem) (by decide)
  exact dispatch_get_numeral hr hq (Decimal.parseU64?_toString hn)

/-- How a service answers `GET hash/q`, for a route of `GET hash` to retrieval and a form
`form`. -/
structure ReadsHandles (v : Service) (form : Form) : Prop where
  /-- A service that is shutting down refuses every request. -/
  refused : v.gate.shuttingDown = true →
    ∀ path, (v.dispatch "GET" path form).1.reply = Reply.ofFault .serviceShutdown
  /-- Otherwise a qualifier with no `/` is an invalid handle exactly when it does not spell a
  value of at most `2⁶⁴ - 1`. -/
  invalid : v.gate.shuttingDown = false → ∀ q, '/' ∉ q.toList →
    ((v.dispatch "GET" ("/hash/" ++ q) form).1.reply = Reply.ofFault (.invalidHandle q) ↔
      ¬∃ n, Decimal.Spells q n ∧ n ≤ Decimal.u64Max)
  /-- A qualifier that spells such a value `n` is answered as `n` written in canonical decimal:
  not found when the store has nothing under `n`, else the digest stored under it. -/
  numeral : v.gate.shuttingDown = false → ∀ q n, '/' ∉ q.toList → Decimal.Spells q n →
    n ≤ Decimal.u64Max →
    (v.dispatch "GET" ("/hash/" ++ q) form).1.reply =
        (v.dispatch "GET" ("/hash/" ++ toString n) form).1.reply ∧
      (v.store.get? n = none →
        (v.dispatch "GET" ("/hash/" ++ q) form).1.reply = Reply.ofFault (.notFound n)) ∧
      ∀ d, v.store.get? n = some d →
        (v.dispatch "GET" ("/hash/" ++ q) form).1.reply = Reply.ok (.digest n d)
  /-- Reading inverts decimal printing on every 64-bit value. -/
  readsPrinted : ∀ n, n ≤ Decimal.u64Max → Decimal.parseU64? (toString n) = some n
  /-- A path with no piece after the method, or with two or more, is malformed, whatever the
  pieces hold. -/
  malformed : v.gate.shuttingDown = false → ∀ pre rs, '/' ∉ pre.toList →
    (∀ r ∈ rs, '/' ∉ r.toList) → rs.length ≠ 1 →
    (v.dispatch "GET" ("/".intercalate (pre :: "hash" :: rs)) form).1.reply =
      Reply.ofFault (.malformedPath "expected /hash/<id>")

/-- A service that routes `GET hash` to retrieval answers `GET hash/q` by reading `q` as an
unsigned 64-bit numeral and looking the value up, whatever its store holds; while it shuts down
it refuses instead. -/
theorem get_hash_reads_handles {v : Service}
    (hr : (v.router.lookup .get "hash").map Route.operation = some .retrieve) (form : Form) :
    ReadsHandles v form := by
  refine ⟨fun hg path => by simp [dispatch_of_shuttingDown hg], fun hg q hq => ?_,
    fun hg q n hq hn hb => ?_, fun n hn => Decimal.parseU64?_toString hn,
    fun hg pre rs hpre hrs hlen => ?_⟩
  · rw [dispatch_get_qualifier hr hg hq]
    cases hp : Decimal.parseU64? q with
    | none =>
      refine ⟨fun _ ⟨n, hspell, hb⟩ => ?_, fun _ => rfl⟩
      have hsome := Decimal.parseBounded?_eq_some_iff.mpr ⟨hspell, hb⟩
      simp [Decimal.parseU64?, hsome] at hp
    | some n =>
      exact ⟨fun hinv => absurd hinv (Store.reply_ne_invalidHandle _ _ _),
        fun hnot => absurd ⟨n, Decimal.parseBounded?_eq_some_iff.mp hp⟩ hnot⟩
  · have hp : Decimal.parseU64? q = some n := Decimal.parseBounded?_eq_some_iff.mpr ⟨hn, hb⟩
    rw [dispatch_get_numeral hr hq hp, dispatch_get_printed hr hb, hg]
    exact ⟨rfl, fun hnone => Store.reply_of_none hnone, fun d hd => Store.reply_of_some hd⟩
  · have hp : Path.resolve ("/".intercalate (pre :: "hash" :: rs)) = .ok ("hash", rs) :=
      Path.resolve_eq_ok_iff.mpr ⟨pre, hpre, by decide, hrs, rfl⟩
    rw [dispatch_get_hash hr hg hp, retrieve_of_qualifier_none (qualifier_eq_none hlen)]
    rfl

/-- A fresh service with the standard routes reads handles. -/
theorem get_hash_reads_handles_fresh :
    ((create {} .lengthTag true).router.lookup .get "hash").map Route.operation = some .retrieve ∧
      ReadsHandles (create {} .lengthTag true) {} :=
  ⟨rfl, get_hash_reads_handles rfl {}⟩

/-- Once it shuts down, a service refuses a qualifier that is no numeral without reading it: the
answer is 503, not an invalid handle. -/
theorem shutdown_answers_before_handle_check :
    let v := ((create {} .lengthTag true).dispatch "POST" "/shutdown" {}).2
    (v.dispatch "GET" "/hash/abc" {}).1.reply = Reply.ofFault .serviceShutdown ∧
      (v.dispatch "GET" "/hash/abc" {}).1.reply ≠ Reply.ofFault (.invalidHandle "abc") := by
  decide

end Service

end DeferredDigest
