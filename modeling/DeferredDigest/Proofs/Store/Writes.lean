import DeferredDigest.Service.Store

/-!
# Writes into the digest store

The handles a store holds, and what writes do to them.  A write under a handle that is not stored
takes effect and puts the entry in its place; a write under a stored handle is refused and changes
nothing.  So a batch of writes under distinct handles, none of them stored, all take effect, and
the store then holds exactly the new entries and the old ones (`Store.insertAll_fresh`).  A digest
read back under a handle is an entry of the store (`Store.mem_entries_of_get?`).
-/

namespace DeferredDigest.Store

variable {s : Store} {h : Nat} {d : String}

/-- The handles stored, in the store's order. -/
def keys (s : Store) : List Nat := s.entries.map Prod.fst

theorem contains_iff : s.contains h = true ↔ h ∈ s.keys := by
  simp [contains, keys]

theorem length_keys : s.keys.length = s.size := by
  simp [keys, size]

/-- Placing an entry in order adds it and nothing else. -/
theorem place_perm (h : Nat) (d : String) (es : List (Nat × String)) :
    (place h d es).Perm ((h, d) :: es) := by
  induction es with
  | nil => exact .refl _
  | cons e rest ih =>
    unfold place
    split
    · exact .refl _
    · exact (ih.cons e).trans (.swap (h, d) e rest)

/-- A write under a handle that is not stored takes effect. -/
theorem insert_of_not_mem (hh : h ∉ s.keys) : s.insert h d = (true, ⟨place h d s.entries⟩) := by
  have hc : s.contains h = false := by
    rw [← Bool.not_eq_true, contains_iff]
    exact hh
  simp [insert, hc]

/-- A write under a stored handle is refused and changes nothing. -/
theorem insert_of_mem (hh : h ∈ s.keys) : s.insert h d = (false, s) := by
  simp [insert, contains_iff.mpr hh]

theorem insertAll_cons (h : Nat) (d : String) (rest : List (Nat × String)) :
    s.insertAll ((h, d) :: rest) =
      ((s.insert h d).1 :: ((s.insert h d).2.insertAll rest).1,
        ((s.insert h d).2.insertAll rest).2) := rfl

/-- Writes under distinct handles, none of them stored, all take effect, and the store then holds
the new entries and the old ones. -/
theorem insertAll_fresh {es : List (Nat × String)} (hnd : (es.map Prod.fst).Nodup)
    (hfresh : ∀ e ∈ es, e.1 ∉ s.keys) :
    (∀ b ∈ (s.insertAll es).1, b = true) ∧ (s.insertAll es).2.entries.Perm (es ++ s.entries) := by
  induction es generalizing s with
  | nil => exact ⟨by simp [insertAll], .refl _⟩
  | cons e rest ih =>
    obtain ⟨h, d⟩ := e
    rw [List.map_cons, List.nodup_cons] at hnd
    obtain ⟨hh, hnd⟩ := hnd
    have hplace := place_perm h d s.entries
    -- after the first write, the rest of the handles are still free
    have hfresh' : ∀ e ∈ rest, e.1 ∉ (⟨place h d s.entries⟩ : Store).keys := by
      intro e he hmem
      have hk : e.1 ∈ h :: s.keys := by
        simpa [keys] using (hplace.map Prod.fst).subset hmem
      rcases List.mem_cons.mp hk with heq | hk
      · have hm : e.1 ∈ rest.map Prod.fst := List.mem_map_of_mem he
        rw [heq] at hm
        exact hh hm
      · exact hfresh e (List.mem_cons_of_mem _ he) hk
    obtain ⟨hbs, hperm⟩ := ih hnd hfresh'
    rw [insertAll_cons, insert_of_not_mem (hfresh (h, d) List.mem_cons_self)]
    refine ⟨?_, ?_⟩
    · intro b hb
      rcases List.mem_cons.mp hb with rfl | hb
      · rfl
      · exact hbs b hb
    · exact hperm.trans ((hplace.append_left rest).trans List.perm_middle)

/-- After a write the handle written is stored, whether the write took effect or not, and so is
every handle stored before. -/
theorem mem_keys_insert {k : Nat} : k ∈ (s.insert h d).2.keys ↔ k = h ∨ k ∈ s.keys := by
  by_cases hh : h ∈ s.keys
  · rw [insert_of_mem hh]
    constructor
    · exact .inr
    · rintro (rfl | hk)
      · exact hh
      · exact hk
  · rw [insert_of_not_mem hh]
    simpa [keys] using ((place_perm h d s.entries).map Prod.fst).mem_iff (a := k)

/-- After a batch of writes the stored handles are those written and those stored before. -/
theorem mem_keys_insertAll {k : Nat} {es : List (Nat × String)} :
    k ∈ (s.insertAll es).2.keys ↔ k ∈ es.map Prod.fst ∨ k ∈ s.keys := by
  induction es generalizing s with
  | nil => simp [insertAll]
  | cons e rest ih =>
    rw [insertAll_cons, ih, mem_keys_insert, List.map_cons, List.mem_cons]
    rw [or_assoc, or_left_comm]

/-- A handle that is not stored reads back nothing. -/
theorem get?_eq_none (hh : h ∉ s.keys) : s.get? h = none := by
  simp only [get?, Option.map_eq_none_iff, List.find?_eq_none, beq_iff_eq]
  intro e he hk
  exact hh (hk ▸ List.mem_map_of_mem he)

/-- A stored handle reads back a digest. -/
theorem exists_get?_of_mem (hh : h ∈ s.keys) : ∃ d, s.get? h = some d := by
  obtain ⟨e, he, rfl⟩ := List.mem_map.mp hh
  cases hf : s.entries.find? (·.1 == e.1) with
  | none => exact absurd he (by simpa using List.find?_eq_none.mp hf e)
  | some e' => exact ⟨e'.2, by simp [get?, hf]⟩

/-- A digest read back under a handle is an entry of the store. -/
theorem mem_entries_of_get? (hg : s.get? h = some d) : (h, d) ∈ s.entries := by
  obtain ⟨e, he, rfl⟩ := Option.map_eq_some_iff.mp hg
  have hkey : e.1 = h := by simpa using List.find?_some he
  rw [← hkey]
  exact List.mem_of_find?_eq_some he

end DeferredDigest.Store
