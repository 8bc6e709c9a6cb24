import DeferredDigest.Proofs.Dispatch.Routing

/-!
# The pieces of a path

A path is cut at every `/` and nowhere else, and the cut loses nothing: there is one piece more
than there are separators, no piece holds a `/`, and joining the pieces with `/` gives the path
back (`Path.length_segments`, `Path.not_mem_of_mem_segments`, `Path.intercalate_segments`).  So
a path with a `/` in it is `pre/method/r₁/…/rₖ` in exactly one way with `/`-free parts, and
that decomposition is the one the service routes on and hands to the handler.

Main statement: `Path.segments_split_path`.
-/

namespace DeferredDigest

namespace Path

/-- `s` is `pre/method/r₁/…/rₖ`, with no `/` inside any of the parts. -/
def Splits (s pre method : String) (rest : List String) : Prop :=
  '/' ∉ pre.toList ∧ '/' ∉ method.toList ∧ (∀ r ∈ rest, '/' ∉ r.toList) ∧
    s = pre ++ "/" ++ method ++ String.join (rest.map fun r => "/" ++ r)

/-- A split has one piece more than the list has separators. -/
theorem length_splitOn (xs : List Char) : (xs.splitOn '/').length = xs.count '/' + 1 := by
  induction xs with
  | nil => simp [List.splitOn_nil]
  | cons x xs ih =>
    rw [List.splitOn_cons_eq_if_modifyHead]
    by_cases hx : x = '/'
    · -- the separator opens a new piece
      subst hx
      simp [ih]
    · -- any other character joins the first piece
      simp [hx, ih]

theorem length_segments (s : String) : (segments s).length = s.toList.count '/' + 1 := by
  rw [segments, List.length_map, length_splitOn]

/-- Joining with a separator writes the separator before every piece but the first. -/
theorem intercalate_eq_join (sep t : String) (l : List String) :
    sep.intercalate (t :: l) = t ++ String.join (l.map fun r => sep ++ r) := by
  induction l generalizing t with
  | nil => simp
  | cons u l ih => rw [String.intercalate_cons_cons, ih, List.map_cons, String.join_cons,
      String.append_assoc, String.append_assoc]

theorem splits_iff {s pre method : String} {rest : List String} :
    Splits s pre method rest ↔ (∀ p ∈ pre :: method :: rest, '/' ∉ p.toList) ∧
      s = "/".intercalate (pre :: method :: rest) := by
  have hjoin : "/".intercalate (pre :: method :: rest) =
      pre ++ "/" ++ method ++ String.join (rest.map fun r => "/" ++ r) := by
    rw [String.intercalate_cons_cons, intercalate_eq_join]
    simp only [String.append_assoc]
  rw [Splits, hjoin]
  simp only [List.forall_mem_cons, and_assoc]

/-- The pieces of a path are cut at every `/`, keep everything between the cuts, and give the
path back; a path with a `/` is `pre/method/r₁/…/rₖ` in exactly one way with `/`-free parts, and
that is the method and the pieces a routed call carries.  A call has a qualifier exactly when
one piece follows its method. -/
theorem segments_split_path (s : String) :
    (segments s).length = s.toList.count '/' + 1 ∧
    (∀ p ∈ segments s, '/' ∉ p.toList) ∧
    "/".intercalate (segments s) = s ∧
    ('/' ∈ s.toList → ∃ pre method rest, segments s = pre :: method :: rest ∧
      resolve s = .ok (method, rest) ∧ Splits s pre method rest ∧
      (∀ pre' method' rest', Splits s pre' method' rest' →
        pre' = pre ∧ method' = method ∧ rest' = rest) ∧
      ∀ (v : Service) (verb : String) (form : Form) (route : Route) (c : Call),
        v.resolve verb s form = .ok (route, c) → c.method = method ∧ c.rest = rest) ∧
    ∀ (c : Call) (r : String), c.qualifier = some r ↔ c.rest = [r] := by
  refine ⟨length_segments s, fun p hp => not_mem_of_mem_segments hp, intercalate_segments s,
    fun hs => ?_, fun c r => ?_⟩
  · -- a `/` makes at least two pieces
    have hcount : 0 < s.toList.count '/' := List.count_pos_iff.mpr hs
    obtain ⟨pre, method, rest, hseg⟩ : ∃ pre method rest, segments s = pre :: method :: rest := by
      match hm : segments s, length_segments s with
      | pre :: method :: rest, _ => exact ⟨pre, method, rest, rfl⟩
      | [], hl => simp at hl
      | [_], hl =>
        simp only [List.length_singleton] at hl
        omega
    have hres : resolve s = .ok (method, rest) := by
      rw [resolve, hseg]
    have hsplit : Splits s pre method rest :=
      splits_iff.mpr ⟨fun p hp => not_mem_of_mem_segments (hseg ▸ hp),
        by rw [← hseg, intercalate_segments]⟩
    refine ⟨pre, method, rest, hseg, hres, hsplit, ?_, ?_⟩
    · -- another decomposition has the same pieces, since cutting it gives them back
      intro pre' method' rest' h'
      obtain ⟨hfree, hs'⟩ := splits_iff.mp h'
      have hcut := segments_intercalate (List.cons_ne_nil _ _) hfree
      rw [← hs', hseg, List.cons.injEq, List.cons.injEq] at hcut
      exact ⟨hcut.1.symm, hcut.2.1.symm, hcut.2.2.symm⟩
    · intro v verb form route c hc
      obtain ⟨w, m, rs, -, hp, -, rfl⟩ := Service.resolve_eq_ok hc
      rw [hres, Except.ok.injEq, Prod.mk.injEq] at hp
      exact ⟨hp.1.symm, hp.2.symm⟩
  · unfold Call.qualifier
    split
    · rename_i q hq
      simp [hq]
    · rename_i hne
      simp only [reduceCtorEq, false_iff]
      exact hne r

/-- The path of a retrieval, cut by the theorem above. -/
theorem segments_split_path_hash :
    '/' ∈ "/hash/7".toList ∧ ∃ pre method rest, segments "/hash/7" = pre :: method :: rest ∧
      resolve "/hash/7" = .ok (method, rest) ∧ Splits "/hash/7" pre method rest := by
  refine ⟨by decide, ?_⟩
  obtain ⟨pre, method, rest, hseg, hres, hsplit, -⟩ :=
    (segments_split_path "/hash/7").2.2.2.1 (by decide)
  exact ⟨pre, method, rest, hseg, hres, hsplit⟩

end Path

end DeferredDigest
