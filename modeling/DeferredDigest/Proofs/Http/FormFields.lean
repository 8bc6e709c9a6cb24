import DeferredDigest.Http.Front
import Mathlib.Data.List.Nodup

/-!
# The first value of a field wins

A form built from a list of name-value pairs binds each name that occurs in the list, and only
those, each once, to the value of its first pair (`Form.get?_ofPairs`, `Form.keys_ofPairs_nodup`,
`Form.mem_keys_ofPairs`).  The HTTP front end builds the form of a request from the pairs of the
body, when it counts, followed by those of the query; so a body value beats a query value, and
within one source the first occurrence wins, even when it is empty
(`Http.gatherForm_keeps_first`).
-/

namespace DeferredDigest

namespace Form

variable {f : Form} {ps : List (String × String)} {n v k : String}

/-- The names bound, in the order they arrived. -/
def keys (f : Form) : List String := f.fields.map Prod.fst

theorem any_iff_mem_keys : f.fields.any (·.1 == n) = true ↔ n ∈ f.keys := by
  simp [keys]

/-- A name reads back what it was bound to, or else what the new binding gives it. -/
theorem get?_add : (f.add n v).get? k = (f.get? k).or (if n = k then some v else none) := by
  unfold add
  split
  · rename_i hbound
    by_cases hk : n = k
    · subst hk
      obtain ⟨e, he, hek⟩ := List.any_eq_true.mp hbound
      have hsome : (f.fields.find? (·.1 == n)).isSome := List.find?_isSome.mpr ⟨e, he, hek⟩
      obtain ⟨e', he'⟩ := Option.isSome_iff_exists.mp hsome
      simp [get?, he']
    · simp [hk]
  · by_cases hk : n = k
    · subst hk
      have hnone : f.fields.find? (·.1 == n) = none := by
        rw [List.find?_eq_none]
        intro e he hek
        exact ‹¬f.fields.any (·.1 == n) = true› (List.any_eq_true.mpr ⟨e, he, hek⟩)
      simp [get?, List.find?_append, hnone]
    · simp [get?, List.find?_append, hk]

theorem mem_keys_add : k ∈ (f.add n v).keys ↔ k = n ∨ k ∈ f.keys := by
  unfold add
  split
  · rename_i hbound
    rw [any_iff_mem_keys] at hbound
    constructor
    · exact .inr
    · rintro (rfl | hk)
      · exact hbound
      · exact hk
  · simp [keys, or_comm]

theorem keys_add_nodup (hf : f.keys.Nodup) : (f.add n v).keys.Nodup := by
  unfold add
  split
  · exact hf
  · rename_i hfree
    rw [any_iff_mem_keys] at hfree
    rw [keys, List.map_append, List.nodup_append]
    refine ⟨hf, List.nodup_singleton _, fun a ha b hb hab => hfree ?_⟩
    rw [List.map_singleton, List.mem_singleton] at hb
    have han : a = n := hab.trans hb
    exact han ▸ ha

/-- Adding pairs in order to a form: a name keeps its binding, or else takes the value of its first
pair. -/
theorem get?_foldl_add :
    (ps.foldl (fun f p => f.add p.1 p.2) f).get? k =
      (f.get? k).or ((ps.find? (·.1 == k)).map (·.2)) := by
  induction ps generalizing f with
  | nil => simp
  | cons p rest ih =>
    rw [List.foldl_cons, ih, get?_add, Option.or_assoc, List.find?_cons]
    by_cases hk : p.1 = k
    · simp [hk]
    · simp [hk, beq_eq_false_iff_ne.mpr hk]

theorem mem_keys_foldl_add :
    k ∈ (ps.foldl (fun f p => f.add p.1 p.2) f).keys ↔ k ∈ ps.map Prod.fst ∨ k ∈ f.keys := by
  induction ps generalizing f with
  | nil => simp
  | cons p rest ih =>
    rw [List.foldl_cons, ih, mem_keys_add, List.map_cons, List.mem_cons]
    tauto

theorem keys_foldl_add_nodup (hf : f.keys.Nodup) :
    (ps.foldl (fun f p => f.add p.1 p.2) f).keys.Nodup := by
  induction ps generalizing f with
  | nil => exact hf
  | cons p rest ih => exact ih (keys_add_nodup hf)

/-- A name reads back the value of its first pair, and nothing if it has none. -/
theorem get?_ofPairs : (ofPairs ps).get? k = (ps.find? (·.1 == k)).map (·.2) := by
  rw [ofPairs, get?_foldl_add]
  rfl

/-- The names bound are those of the pairs. -/
theorem mem_keys_ofPairs : k ∈ (ofPairs ps).keys ↔ k ∈ ps.map Prod.fst := by
  rw [ofPairs, mem_keys_foldl_add]
  simp [empty, keys]

/-- Each name is bound once. -/
theorem keys_ofPairs_nodup : (ofPairs ps).keys.Nodup :=
  keys_foldl_add_nodup List.nodup_nil

end Form

namespace Http

/-- A body counts as a form exactly when its content type is visible ASCII, tabs allowed, and
starts with `application/x-www-form-urlencoded`. -/
theorem isFormType_iff {contentType : Option String} :
    isFormType contentType = true ↔ ∃ v, contentType = some v ∧
      (∀ b ∈ v.toUTF8.toList, (32 ≤ b ∧ b < 127) ∨ b = 9) ∧ v.startsWith formType = true := by
  cases contentType with
  | none => simp [isFormType]
  | some v => simp [isFormType, isVisibleAscii, List.all_eq_true]

/-- The form of a request.  With `ps` the pairs of the body, when the content type makes it a form
and it is not empty, followed by the pairs of the query, if there is one: each name of `ps` is
bound once, to the value of its first pair there, and no other name is bound. -/
theorem gatherForm_keeps_first (contentType query : Option String) (body : List UInt8) :
    (isFormType contentType = true ↔ ∃ v, contentType = some v ∧
      (∀ b ∈ v.toUTF8.toList, (32 ≤ b ∧ b < 127) ∨ b = 9) ∧ v.startsWith formType = true) ∧
    ∃ ps, ps = (if isFormType contentType = true ∧ body ≠ [] then UrlEncoded.pairs body else []) ++
        (query.map fun q => UrlEncoded.pairs q.toUTF8.toList).getD [] ∧
      (∀ k, (gatherForm contentType body query).get? k = (ps.find? (·.1 == k)).map (·.2)) ∧
      (gatherForm contentType body query).keys.Nodup ∧
      ∀ k, k ∈ (gatherForm contentType body query).keys ↔ k ∈ ps.map Prod.fst := by
  refine ⟨isFormType_iff, _, rfl, ?_⟩
  have hsources : gatherForm contentType body query = Form.ofPairs
      ((if isFormType contentType = true ∧ body ≠ [] then UrlEncoded.pairs body else []) ++
        (query.map fun q => UrlEncoded.pairs q.toUTF8.toList).getD []) := by
    cases query <;> simp [gatherForm]
  rw [hsources]
  exact ⟨fun k => Form.get?_ofPairs, Form.keys_ofPairs_nodup, fun k => Form.mem_keys_ofPairs⟩

example : (gatherForm (some formType) "password=body".toUTF8.toList
    (some "password=query&user=q")).fields = [("password", "body"), ("user", "q")] := by
  decide +kernel

end Http

end DeferredDigest
