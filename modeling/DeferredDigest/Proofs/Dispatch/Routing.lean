import DeferredDigest.Proofs.Dispatch.Cases

/-!
# Routing

Which route an admitted request reaches, and on which call, said without the code that finds it.

* A verb is read only from its exact upper-case name (`Verb.ofName?_eq_some_iff`).
* A path is cut at every `/`, and the pieces keep everything between the cuts, empty pieces
  included: `Path.resolve` gives the method `m` and the pieces `rs` after it exactly when the path
  is `pre/m/r₁/…/rₖ` with no `/` inside any piece (`Path.resolve_eq_ok_iff`), and refuses exactly
  the paths with no `/` (`Path.resolve_eq_error`).
* A router built by a sequence of insertions finds, in a table, the route inserted last for the
  method (`Router.find?_build`); a lookup tries the verb's table and then the generic one.

Main statement: `Service.dispatch_routes_by_verb_then_method`, for a router built by any sequence
of insertions.
-/

namespace DeferredDigest

namespace Verb

theorem ofName?_eq_some_iff {s : String} {v : Verb} : ofName? s = some v ↔ v.name = s := by
  unfold ofName? supported
  by_cases hget : "GET" = s
  · subst hget
    cases v <;> simp [name]
  · by_cases hpost : "POST" = s
    · subst hpost
      cases v <;> simp [name]
    · cases v <;> simp [name, hget, hpost]

theorem ofName?_eq_none_iff {s : String} : ofName? s = none ↔ s ≠ "GET" ∧ s ≠ "POST" := by
  rw [Option.eq_none_iff_forall_ne_some]
  simp only [ne_eq, ofName?_eq_some_iff]
  constructor
  · intro h
    exact ⟨fun hs => h .get hs.symm, fun hs => h .post hs.symm⟩
  · rintro ⟨hget, hpost⟩ v hv
    cases v with
    | get => exact hget hv.symm
    | post => exact hpost hv.symm

theorem name_eq_get_or_post (v : Verb) : v.name = "GET" ∨ v.name = "POST" := by
  cases v
  · exact .inl rfl
  · exact .inr rfl

end Verb

namespace Path

/-- No piece of a split holds the separator. -/
theorem not_mem_of_mem_splitOn {xs l : List Char} (hl : l ∈ xs.splitOn '/') : '/' ∉ l := by
  induction xs generalizing l with
  | nil =>
    rw [List.splitOn_nil, List.mem_singleton] at hl
    simp [hl]
  | cons x xs ih =>
    rw [List.splitOn_cons_eq_if_modifyHead] at hl
    split at hl
    · -- a separator closes the piece before it and opens an empty one
      rcases List.mem_cons.mp hl with rfl | hl
      · simp
      · exact ih hl
    · -- any other character joins the first piece
      rename_i hx
      obtain ⟨hd, tl, hsplit⟩ := List.exists_cons_of_ne_nil (List.splitOn_ne_nil '/' xs)
      rw [hsplit, List.modifyHead_cons] at hl
      rcases List.mem_cons.mp hl with rfl | hl
      · have hhd : '/' ∉ hd := ih (hsplit ▸ List.mem_cons_self)
        simp only [beq_iff_eq] at hx
        simp [hhd, Ne.symm hx]
      · exact ih (hsplit ▸ List.mem_cons_of_mem _ hl)

theorem toList_slash : "/".toList = ['/'] := rfl

/-- Joining pieces with no `/` in them and cutting the result again gives the pieces back. -/
theorem segments_intercalate {ps : List String} (hne : ps ≠ [])
    (h : ∀ p ∈ ps, '/' ∉ p.toList) : segments ("/".intercalate ps) = ps := by
  have hl : ps.map String.toList ≠ [] := by simpa using hne
  have hs : ∀ l ∈ ps.map String.toList, '/' ∉ l := by simpa using h
  simp only [segments, String.toList_intercalate, toList_slash, List.splitOn_intercalate '/' hs hl,
    List.map_map]
  simp [Function.comp_def]

/-- The pieces of a path, joined with `/`, give the path back. -/
theorem intercalate_segments (path : String) : "/".intercalate (segments path) = path := by
  apply String.toList_inj.mp
  simp [segments, String.toList_intercalate, toList_slash, Function.comp_def,
    List.intercalate_splitOn]

theorem not_mem_of_mem_segments {path p : String} (hp : p ∈ segments path) : '/' ∉ p.toList := by
  simp only [segments, List.mem_map] at hp
  obtain ⟨l, hl, rfl⟩ := hp
  simpa using not_mem_of_mem_splitOn hl

/-- A path names the method `m` followed by the pieces `rs` exactly when it is `pre/m/r₁/…/rₖ`
with no `/` inside any of the pieces. -/
theorem resolve_eq_ok_iff {path m : String} {rs : List String} :
    resolve path = .ok (m, rs) ↔ ∃ pre, '/' ∉ pre.toList ∧ '/' ∉ m.toList ∧
      (∀ r ∈ rs, '/' ∉ r.toList) ∧ path = "/".intercalate (pre :: m :: rs) := by
  constructor
  · intro h
    unfold resolve at h
    split at h
    · rename_i pre m' rest hseg
      simp only [Except.ok.injEq, Prod.mk.injEq] at h
      obtain ⟨rfl, rfl⟩ := h
      have hfree : ∀ p ∈ pre :: m' :: rest, '/' ∉ p.toList :=
        fun p hp => not_mem_of_mem_segments (hseg ▸ hp)
      refine ⟨pre, hfree pre (by simp), hfree m' (by simp), fun r hr => hfree r (by simp [hr]), ?_⟩
      rw [← hseg, intercalate_segments]
    · cases h
  · rintro ⟨pre, hpre, hm, hrs, rfl⟩
    have hfree : ∀ p ∈ pre :: m :: rs, '/' ∉ p.toList := by
      simpa [hpre, hm] using hrs
    rw [resolve, segments_intercalate (List.cons_ne_nil _ _) hfree]

/-- A path is refused only when it has no `/`, and the refusal quotes the whole path. -/
theorem resolve_eq_error {path : String} {f : Fault} (h : resolve path = .error f) :
    '/' ∉ path.toList ∧ f = .methodNotAllowed path := by
  unfold resolve at h
  split at h
  · cases h
  · rename_i hnot
    cases h
    refine ⟨?_, rfl⟩
    -- without a second piece, the only piece is the whole path
    obtain ⟨p, hp⟩ : ∃ p, segments path = [p] := by
      match hs : segments path with
      | [] => simp [segments] at hs
      | [p] => exact ⟨p, rfl⟩
      | _ :: _ :: _ => exact absurd hs (hnot _ _ _)
    have hpath := intercalate_segments path
    rw [hp, String.intercalate_singleton] at hpath
    rw [← hpath]
    exact not_mem_of_mem_segments (hp ▸ List.mem_singleton_self p)

end Path

namespace Router

/-- The router that a sequence of insertions builds, in order, from the router with no routes. -/
def build (ins : List Entry) : Router :=
  ins.foldl (fun r e => r.insert e.table e.method e.route) empty

/-- Among a sequence of insertions, the route inserted last into a table for a method. -/
def latest (ins : List Entry) (t : Table) (m : String) : Option Route :=
  (ins.reverse.find? fun e => e.table == t && e.method == m).map (·.route)

theorem latest_cons (e : Entry) (ins : List Entry) (t : Table) (m : String) :
    latest (e :: ins) t m =
      (latest ins t m).or (if e.table = t ∧ e.method = m then some e.route else none) := by
  by_cases h : e.table = t ∧ e.method = m
  · obtain ⟨rfl, rfl⟩ := h
    simp [latest]
  · have he : (e.table == t && e.method == m) = false := by simpa using h
    rw [if_neg h, Option.or_none]
    simp [latest, he]

/-- An insertion answers for its own table and method and leaves every other one as it was. -/
theorem find?_insert (r : Router) (t t' : Table) (m m' : String) (route : Route) :
    (r.insert t' m' route).find? t m = if t' = t ∧ m' = m then some route else r.find? t m := by
  by_cases h : t' = t ∧ m' = m
  · obtain ⟨rfl, rfl⟩ := h
    simp [insert, find?]
  · have he : (t' == t && m' == m) = false := by simpa using h
    simp only [insert, find?, List.find?_cons, he, List.find?_filter, if_neg h]
    -- the entries that the insertion drops are those of its own key, not of the key looked up
    have h' : ¬(t = t' ∧ m = m') := fun hk => h ⟨hk.1.symm, hk.2.symm⟩
    congr 2
    funext e
    by_cases h1 : e.table = t <;> by_cases h2 : e.method = m <;> grind

theorem find?_foldl (ins : List Entry) (r : Router) (t : Table) (m : String) :
    (ins.foldl (fun r e => r.insert e.table e.method e.route) r).find? t m =
      (latest ins t m).or (r.find? t m) := by
  induction ins generalizing r with
  | nil => simp [latest]
  | cons e ins ih =>
    rw [List.foldl_cons, ih, find?_insert, latest_cons, Option.or_assoc]
    by_cases h : e.table = t ∧ e.method = m <;> simp [h]

/-- A built router finds, in each table, the route inserted last for the method. -/
theorem find?_build (ins : List Entry) (t : Table) (m : String) :
    (build ins).find? t m = latest ins t m := by
  rw [build, find?_foldl]
  simp [find?, empty]

theorem lookup_eq_or (r : Router) (v : Verb) (m : String) :
    r.lookup v m = (r.find? (.verb v) m).or (r.find? .generic m) := by
  unfold lookup
  cases r.find? (.verb v) m <;> rfl

theorem lookup_build (ins : List Entry) (v : Verb) (m : String) :
    (build ins).lookup v m = (latest ins (.verb v) m).or (latest ins .generic m) := by
  rw [lookup_eq_or, find?_build, find?_build]

/-- The insertions that build the standard routes. -/
def standardInsertions : List Entry :=
  [⟨.verb .post, "hash", ⟨.submit, true⟩⟩, ⟨.verb .get, "hash", ⟨.retrieve, false⟩⟩,
    ⟨.verb .get, "stats", ⟨.stats, false⟩⟩, ⟨.generic, "shutdown", ⟨.shutdown, false⟩⟩]

theorem standard_eq_build : standard = build standardInsertions := rfl

end Router

namespace Service

variable {s : Service} {verb path : String} {form : Form}

theorem resolve_eq_ok_iff {r : Route} {c : Call} :
    s.resolve verb path form = .ok (r, c) ↔ ∃ v method rest, Verb.ofName? verb = some v ∧
      Path.resolve path = .ok (method, rest) ∧ s.router.lookup v method = some r ∧
      c = ⟨v, method, rest, form⟩ := by
  refine ⟨resolve_eq_ok, ?_⟩
  rintro ⟨v, method, rest, hv, hp, hl, rfl⟩
  simp [resolve, hv, hp, hl, bind, Except.bind, pure, Except.pure]

/-- A request that is not routed is refused for its verb; or, with a known verb, for a path that
names no method or for a method with no route. -/
theorem resolve_eq_error {f : Fault} (h : s.resolve verb path form = .error f) :
    (Verb.ofName? verb = none ∧ f = .verbNotAllowed verb) ∨
      ∃ v, Verb.ofName? verb = some v ∧ (Path.resolve path = .error f ∨
        ∃ m rs, Path.resolve path = .ok (m, rs) ∧ s.router.lookup v m = none ∧
          f = .methodNotAllowed m) := by
  unfold resolve at h
  cases hv : Verb.ofName? verb with
  | none =>
    simp only [hv, throw_eq_error, Except.error.injEq] at h
    exact .inl ⟨rfl, h.symm⟩
  | some v =>
    simp only [hv] at h
    refine .inr ⟨v, rfl, ?_⟩
    cases hp : Path.resolve path with
    | error e =>
      simp only [hp, bind, Except.bind, Except.error.injEq] at h
      exact .inl (h ▸ rfl)
    | ok mr =>
      obtain ⟨m, rs⟩ := mr
      cases hl : s.router.lookup v m with
      | none =>
        simp only [hp, hl, bind, Except.bind, throw_eq_error, Except.error.injEq] at h
        exact .inr ⟨m, rs, rfl, hl, h.symm⟩
      | some r => simp [hp, hl, bind, Except.bind, pure, Except.pure] at h

/-- An admitted request that is not routed is answered with the fault and changes nothing. -/
theorem dispatch_of_resolve_error {f : Fault} (hg : s.gate.shuttingDown = false)
    (h : s.resolve verb path form = .error f) :
    s.dispatch verb path form = (⟨Reply.ofFault f, none⟩, s) := by
  -- routing reads the routes only, so the admission does not change it
  have h' : ({ s with gate := s.gate.acquire.2 } : Service).resolve verb path form = .error f := h
  simp only [Gate.acquire_of_open hg] at h'
  simp [dispatch, Gate.acquire_of_open hg, handle, h', Gate.release_admitted hg]

/-- An admitted request that is routed is answered by its route, run on its call. -/
theorem dispatch_of_resolve_ok {r : Route} {c : Call} (hg : s.gate.shuttingDown = false)
    (h : s.resolve verb path form = .ok (r, c)) :
    (s.dispatch verb path form).1 =
      ({ s with gate := s.gate.acquire.2 }.perform r.operation c).1 := by
  have h' : ({ s with gate := s.gate.acquire.2 } : Service).resolve verb path form = .ok (r, c) := h
  simp only [Gate.acquire_of_open hg] at h' ⊢
  simp only [dispatch, Gate.acquire_of_open hg, handle, h']
  -- counting a timed success does not change the answer
  split <;> rfl

/-- How an admitted request is routed by the router built from a sequence of insertions `ins`. -/
structure RoutesPer (ins : List Entry) (s : Service) (verb path : String) (form : Form) : Prop where
  /-- A route runs on a call exactly when the verb is `GET` or `POST` as written, the path is
  `pre/m/r₁/…/rₖ` with no `/` inside a piece, the call carries the verb, `m`, the pieces `rᵢ`
  (empty ones included) and the form, and the route is the one inserted last for `m` into the
  verb's table or, when that table has none, into the generic table. -/
  runs : ∀ r c, s.resolve verb path form = .ok (r, c) ↔
    ∃ v pre m rs, v.name = verb ∧ '/' ∉ pre.toList ∧ '/' ∉ m.toList ∧
      (∀ x ∈ rs, '/' ∉ x.toList) ∧ path = "/".intercalate (pre :: m :: rs) ∧
      c = ⟨v, m, rs, form⟩ ∧
      (Router.latest ins (.verb v) m).or (Router.latest ins .generic m) = some r
  /-- The dispatch answers what that route answers on that call. -/
  answers : ∀ r c, s.resolve verb path form = .ok (r, c) →
    (s.dispatch verb path form).1 = ({ s with gate := s.gate.acquire.2 }.perform r.operation c).1
  /-- Any other request is answered with a 405 and changes nothing: an unknown verb, whatever the
  path, with the allowed verbs listed; with a known verb, a path with no `/`, quoting the path, or
  a method that neither table has, quoting the method, with no verbs listed. -/
  refuses : ∀ f, s.resolve verb path form = .error f →
    s.dispatch verb path form = (⟨Reply.ofFault f, none⟩, s) ∧ f.status = 405 ∧
    ((verb ≠ "GET" ∧ verb ≠ "POST" ∧ f = .verbNotAllowed verb ∧
        (Reply.ofFault f).allow = some [.get, .post]) ∨
      ((verb = "GET" ∨ verb = "POST") ∧ '/' ∉ path.toList ∧ f = .methodNotAllowed path ∧
        (Reply.ofFault f).allow = none) ∨
      ∃ v pre m rs, v.name = verb ∧ '/' ∉ pre.toList ∧ '/' ∉ m.toList ∧
        (∀ x ∈ rs, '/' ∉ x.toList) ∧ path = "/".intercalate (pre :: m :: rs) ∧
        Router.latest ins (.verb v) m = none ∧ Router.latest ins .generic m = none ∧
        f = .methodNotAllowed m ∧ (Reply.ofFault f).allow = none)

/-- For a router built by any sequence of insertions, an admitted request runs the route inserted
last for its method, in its verb's table or else in the generic table, on the call cut from its
path; every other request is refused with one of three 405 answers. -/
theorem dispatch_routes_by_verb_then_method (ins : List Entry) {s : Service}
    (hr : s.router = Router.build ins) (hg : s.gate.shuttingDown = false)
    (verb path : String) (form : Form) : RoutesPer ins s verb path form := by
  have hlookup : ∀ v m, s.router.lookup v m =
      (Router.latest ins (.verb v) m).or (Router.latest ins .generic m) := by
    intro v m
    rw [hr, Router.lookup_build]
  refine ⟨fun r c => ?_, fun r c h => dispatch_of_resolve_ok hg h, fun f h => ?_⟩
  · rw [resolve_eq_ok_iff]
    constructor
    · rintro ⟨v, m, rs, hv, hp, hl, rfl⟩
      obtain ⟨pre, hpre, hm, hrs, hpath⟩ := Path.resolve_eq_ok_iff.mp hp
      exact ⟨v, pre, m, rs, Verb.ofName?_eq_some_iff.mp hv, hpre, hm, hrs, hpath, rfl,
        (hlookup v m).symm.trans hl⟩
    · rintro ⟨v, pre, m, rs, hv, hpre, hm, hrs, hpath, rfl, hl⟩
      exact ⟨v, m, rs, Verb.ofName?_eq_some_iff.mpr hv,
        Path.resolve_eq_ok_iff.mpr ⟨pre, hpre, hm, hrs, hpath⟩, (hlookup v m).trans hl, rfl⟩
  · refine ⟨dispatch_of_resolve_error hg h, ?_⟩
    rcases resolve_eq_error h with ⟨hv, rfl⟩ | ⟨v, hv, hp | ⟨m, rs, hp, hl, rfl⟩⟩
    · -- an unknown verb, whatever the path
      obtain ⟨hget, hpost⟩ := Verb.ofName?_eq_none_iff.mp hv
      exact ⟨rfl, .inl ⟨hget, hpost, rfl, rfl⟩⟩
    · -- a known verb and a path with no `/`
      obtain ⟨hslash, rfl⟩ := Path.resolve_eq_error hp
      have hverb := Verb.ofName?_eq_some_iff.mp hv ▸ Verb.name_eq_get_or_post v
      exact ⟨rfl, .inr (.inl ⟨hverb, hslash, rfl, rfl⟩)⟩
    · -- a known verb and a method that neither table has
      obtain ⟨pre, hpre, hm, hrs, hpath⟩ := Path.resolve_eq_ok_iff.mp hp
      rw [hlookup, Option.or_eq_none_iff] at hl
      exact ⟨rfl, .inr (.inr ⟨v, pre, m, rs, Verb.ofName?_eq_some_iff.mp hv, hpre, hm, hrs, hpath,
        hl.1, hl.2, rfl, rfl⟩)⟩

/-- A fresh service, whose standard routes are built by insertions, asked with an unknown verb. -/
theorem dispatch_routes_by_verb_then_method_fresh :
    (create {} .lengthTag true).router = Router.build Router.standardInsertions ∧
      (create {} .lengthTag true).gate.shuttingDown = false ∧
      RoutesPer Router.standardInsertions (create {} .lengthTag true) "DELETE" "/hash" {} :=
  ⟨rfl, rfl, dispatch_routes_by_verb_then_method Router.standardInsertions rfl rfl _ _ _⟩

end Service

end DeferredDigest
