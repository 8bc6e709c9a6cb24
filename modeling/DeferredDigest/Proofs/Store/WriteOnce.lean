import DeferredDigest.Proofs.Store.Writes
import Mathlib.Data.Finset.Card
import Mathlib.Data.List.Sort

/-!
# The store is write-once

Reading a store filled by a run of writes from empty: a handle reads back the value of the first
write under it, or nothing if none was made (`Store.get?_insertAll_empty`).  A write takes effect
exactly when no earlier write used its handle, and a refused write changes nothing; the size is
the number of distinct handles written.  Since reads change nothing, these describe every
interleaving of reads and writes.

Entries are kept in increasing order of handle (`Store.Ordered`), so a store is determined by its
entries as a set: writes under distinct handles give the same store in any order
(`Store.insertAll_perm_eq`).
-/

namespace DeferredDigest.Store

variable {s : Store} {h k : Nat} {d : String} {ws : List (Nat × String)}

/-- The entries are in strictly increasing order of handle. -/
def Ordered (s : Store) : Prop := s.entries.Pairwise (·.1 < ·.1)

theorem ordered_empty : empty.Ordered := List.Pairwise.nil

theorem keys_empty : empty.keys = [] := rfl

/-! ## Placing an entry -/

/-- Placing an entry under a new handle keeps the entries in order. -/
theorem pairwise_place {es : List (Nat × String)} (hes : es.Pairwise (·.1 < ·.1))
    (hh : h ∉ es.map Prod.fst) : (place h d es).Pairwise (·.1 < ·.1) := by
  induction es with
  | nil => exact List.pairwise_singleton _ _
  | cons e rest ih =>
    rw [List.pairwise_cons] at hes
    have hne : h ≠ e.1 := fun heq => hh (heq ▸ List.mem_cons_self)
    unfold place
    split
    · rename_i hlt
      refine List.Pairwise.cons (fun e' he' => ?_) (List.Pairwise.cons hes.1 hes.2)
      rcases List.mem_cons.mp he' with rfl | he'
      · exact hlt
      · exact Nat.lt_trans hlt (hes.1 e' he')
    · rename_i hge
      -- the entry goes further down, behind `e`, whose handle is smaller
      refine List.Pairwise.cons (fun e' he' => ?_) (ih hes.2 fun hm => hh (List.mem_cons_of_mem _ hm))
      rcases List.mem_cons.mp ((place_perm h d rest).subset he') with rfl | he'
      · omega
      · exact hes.1 e' he'

/-- Looking a handle up after placing an entry under a new handle. -/
theorem find?_place {es : List (Nat × String)} (hh : h ∉ es.map Prod.fst) :
    (place h d es).find? (·.1 == k) = if h = k then some (h, d) else es.find? (·.1 == k) := by
  induction es with
  | nil => by_cases hk : h = k <;> simp [place, hk]
  | cons e rest ih =>
    have hne : h ≠ e.1 := fun heq => hh (heq ▸ List.mem_cons_self)
    have ih' := ih fun hm => hh (List.mem_cons_of_mem _ hm)
    unfold place
    split
    · by_cases hk : h = k <;> simp [hk]
    · by_cases hek : e.1 = k
      · simp [hek, show h ≠ k from hek ▸ hne]
      · simp [hek, ih']

/-! ## One write -/

theorem Ordered.insert (hs : s.Ordered) (h : Nat) (d : String) : (s.insert h d).2.Ordered := by
  by_cases hh : h ∈ s.keys
  · rw [insert_of_mem hh]
    exact hs
  · rw [insert_of_not_mem hh]
    exact pairwise_place hs hh

/-- A write takes effect exactly when its handle is not stored. -/
theorem insert_fst : (s.insert h d).1 = !s.contains h := by
  unfold insert
  split <;> simp_all

/-- A handle reads back what was stored under it, or else what the write put there. -/
theorem get?_insert : (s.insert h d).2.get? k = (s.get? k).or (if h = k then some d else none) := by
  by_cases hh : h ∈ s.keys
  · rw [insert_of_mem hh]
    by_cases hk : h = k
    · obtain ⟨d', hd'⟩ := exists_get?_of_mem (hk ▸ hh)
      simp [hd']
    · simp [hk]
  · rw [insert_of_not_mem hh]
    show ((place h d s.entries).find? (·.1 == k)).map (·.2) = _
    rw [find?_place hh]
    by_cases hk : h = k
    · subst hk
      simp [get?_eq_none hh]
    · simp [hk, get?]

/-! ## A run of writes -/

theorem Ordered.insertAll (hs : s.Ordered) (ws : List (Nat × String)) :
    (s.insertAll ws).2.Ordered := by
  induction ws generalizing s with
  | nil => exact hs
  | cons w rest ih => exact ih (hs.insert w.1 w.2)

/-- After a run of writes a handle reads back what was stored under it, or else the value of the
first write under it. -/
theorem get?_insertAll :
    (s.insertAll ws).2.get? k = (s.get? k).or ((ws.find? (·.1 == k)).map (·.2)) := by
  induction ws generalizing s with
  | nil => simp [insertAll]
  | cons w rest ih =>
    obtain ⟨h, d⟩ := w
    rw [insertAll_cons, ih, get?_insert, Option.or_assoc, List.find?_cons]
    by_cases hk : h = k
    · simp [hk]
    · simp [hk, beq_eq_false_iff_ne.mpr hk]

/-- Filled from empty, a store reads back the value of the first write under a handle. -/
theorem get?_insertAll_empty :
    (empty.insertAll ws).2.get? k = (ws.find? (·.1 == k)).map (·.2) := by
  rw [get?_insertAll]
  rfl

/-- Filled from empty, a store holds exactly the handles written. -/
theorem mem_keys_insertAll_empty : k ∈ (empty.insertAll ws).2.keys ↔ k ∈ ws.map Prod.fst := by
  rw [mem_keys_insertAll, keys_empty]
  simp

theorem Ordered.keys_nodup (hs : s.Ordered) : s.keys.Nodup :=
  (hs.map Prod.fst fun _ _ hlt => hlt).nodup

/-- Writes under distinct handles fill an empty store with exactly their entries. -/
theorem entries_insertAll_empty (hnd : (ws.map Prod.fst).Nodup) :
    (empty.insertAll ws).2.entries.Perm ws := by
  have h := (insertAll_fresh (s := empty) hnd fun _ _ hk => by simp [keys_empty] at hk).2
  rwa [show empty.entries = [] from rfl, List.append_nil] at h

/-- Filled from empty, a store holds one entry per distinct handle written. -/
theorem size_insertAll_empty : (empty.insertAll ws).2.size = (ws.map Prod.fst).toFinset.card := by
  rw [← length_keys, ← List.toFinset_card_of_nodup (ordered_empty.insertAll ws).keys_nodup]
  congr 1
  ext k
  simp only [List.mem_toFinset, mem_keys_insertAll_empty]

/-- Writes under distinct handles give the same store in any order. -/
theorem insertAll_perm_eq {ws' : List (Nat × String)} (hperm : ws'.Perm ws)
    (hnd : (ws.map Prod.fst).Nodup) : (empty.insertAll ws').2 = (empty.insertAll ws).2 := by
  have hnd' : (ws'.map Prod.fst).Nodup := (hperm.map Prod.fst).nodup_iff.mpr hnd
  have hentries : (empty.insertAll ws').2.entries.Perm (empty.insertAll ws).2.entries :=
    (entries_insertAll_empty hnd').trans (hperm.trans (entries_insertAll_empty hnd).symm)
  -- both lists are in strictly increasing order of handle, so they are the same list
  have heq := hentries.eq_of_pairwise (fun _ _ _ _ hab hba => absurd (Nat.lt_trans hab hba)
    (Nat.lt_irrefl _)) (ordered_empty.insertAll ws') (ordered_empty.insertAll ws)
  rw [show (empty.insertAll ws').2 = ⟨(empty.insertAll ws').2.entries⟩ from rfl, heq]

/-- A write-once store.  After any run of writes from empty, a handle reads back the value of the
first write under it, or nothing if there was none; a further write takes effect exactly when its
handle was never written, and otherwise leaves the store as it was; the size is the number of
distinct handles written; and writes under distinct handles give the same store in any order. -/
theorem insertAll_write_once (ws : List (Nat × String)) :
    (∀ k, (empty.insertAll ws).2.get? k = (ws.find? (·.1 == k)).map (·.2)) ∧
    (∀ h d, ((empty.insertAll ws).2.insert h d).1 = !(ws.map Prod.fst).contains h ∧
      ((ws.map Prod.fst).contains h = true →
        ((empty.insertAll ws).2.insert h d).2 = (empty.insertAll ws).2)) ∧
    (empty.insertAll ws).2.size = (ws.map Prod.fst).toFinset.card ∧
    ∀ ws', ws'.Perm ws → (ws.map Prod.fst).Nodup →
      (empty.insertAll ws').2 = (empty.insertAll ws).2 := by
  have hcontains : ∀ h, (empty.insertAll ws).2.contains h = (ws.map Prod.fst).contains h := by
    intro h
    rw [Bool.eq_iff_iff, contains_iff, mem_keys_insertAll_empty, List.contains_iff_mem]
  refine ⟨fun k => get?_insertAll_empty, fun h d => ⟨?_, fun hc => ?_⟩, size_insertAll_empty,
    fun ws' hperm hnd => insertAll_perm_eq hperm hnd⟩
  · rw [insert_fst, hcontains]
  · rw [← hcontains, contains_iff] at hc
    rw [insert_of_mem hc]

example : (empty.insertAll [(5, "first"), (5, "second"), (2, "other")]) =
    ([true, false, true], ⟨[(2, "other"), (5, "first")]⟩) := by decide

end DeferredDigest.Store
