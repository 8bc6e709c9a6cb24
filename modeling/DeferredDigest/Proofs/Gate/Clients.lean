import DeferredDigest.Proofs.Gate.Coherence
import Mathlib.Data.Finset.Card

/-!
# Clients sharing the drain gate

Any number of clients use one gate at once, each operation atomic under the gate's lock.  A
*session* enters the gate and, if it was admitted, later drops its admission exactly once; any
client may initiate shutdown at any point, from inside a session or not.  Sessions are named by
numbers, and a run interleaves the steps of all of them in any order.

Main statement (`Clients.run_drains`): in every state a run reaches, the gate counts exactly the
live sessions, a new session is admitted exactly when no initiation came before it, and the token
is cancelled exactly when shutdown was initiated and no session is live.  The step that cancels it
is the initiation itself when no session is live, and otherwise the drop of the last live session.
Along the run the token is cancelled at most once, exactly once when the run initiates shutdown
and ends with every session dropped, and exactly one initiation reports that it flipped the gate.
-/

namespace DeferredDigest.Gate

/-- What a client does at the gate. -/
inductive Event where
  /-- Session `i` asks to be admitted. -/
  | enter (i : Nat)
  /-- Session `i` drops its admission. -/
  | drop (i : Nat)
  /-- A client initiates shutdown. -/
  | initiate
deriving DecidableEq, Repr

/-- The gate and the sessions it admitted that have not dropped their admission yet. -/
structure Clients where
  gate : Gate
  live : Finset Nat

namespace Clients

variable {c : Clients} {e : Event} {i : Nat}

/-- No session yet, and a gate that admits. -/
def start : Clients := ⟨initial, ∅⟩

/-- One step of one client.  A session that is live does not enter again, and only a live session
drops; a session that is refused never becomes live. -/
def step (c : Clients) : Event → Clients
  | .enter i =>
    if i ∈ c.live then c
    else ⟨c.gate.acquire.2, if c.gate.acquire.1 then insert i c.live else c.live⟩
  | .drop i => if i ∈ c.live then ⟨c.gate.release, c.live.erase i⟩ else c
  | .initiate => ⟨c.gate.initiateShutdown.2, c.live⟩

/-- The state after the steps of a run, taken in order. -/
def run (c : Clients) (es : List Event) : Clients := es.foldl step c

theorem run_cons (es : List Event) : c.run (e :: es) = (c.step e).run es := rfl

/-! ## One step -/

/-- The gate operation a step performs, if it performs one. -/
def op? (c : Clients) : Event → Option Op
  | .enter i => if i ∈ c.live then none else some .acquire
  | .drop i => if i ∈ c.live then some .release else none
  | .initiate => some .initiateShutdown

/-- A step changes the gate by the operation it performs, and only by it. -/
theorem gate_step (c : Clients) (e : Event) :
    (c.step e).gate = ((c.op? e).map c.gate.apply).getD c.gate := by
  cases e <;> simp only [step, op?] <;> (try split) <;> rfl

theorem shuttingDown_step (c : Clients) (e : Event) :
    (c.step e).gate.shuttingDown = (c.gate.shuttingDown || e == .initiate) := by
  rw [gate_step]
  cases e with
  | enter i =>
    by_cases hi : i ∈ c.live
    · simp [op?, hi]
    · simp [op?, hi]; cases c.gate.shuttingDown <;> rfl
  | drop i =>
    by_cases hi : i ∈ c.live
    · simp [op?, hi]; cases c.gate.shuttingDown <;> rfl
    · simp [op?, hi]
  | initiate => simp [op?]

/-- The token, once cancelled, stays cancelled. -/
theorem ready_step (h : c.gate.ready = true) (e : Event) : (c.step e).gate.ready = true := by
  rw [gate_step]
  cases c.op? e <;> simp [h]

/-- A new session is admitted exactly when the gate is not shutting down. -/
theorem mem_live_enter (hi : i ∉ c.live) :
    i ∈ (c.step (.enter i)).live ↔ c.gate.shuttingDown = false := by
  cases h : c.gate.shuttingDown <;> simp [step, hi, acquire, h]

/-- A session that enters a gate that is shutting down changes nothing. -/
theorem step_enter_of_shuttingDown (h : c.gate.shuttingDown = true) : c.step (.enter i) = c := by
  simp only [step]
  split
  · rfl
  · simp [acquire_of_shuttingDown h]

theorem live_drop : (c.step (.drop i)).live = c.live.erase i := by
  by_cases hi : i ∈ c.live
  · simp [step, hi]
  · simp [step, hi]

/-! ## The invariant -/

/-- What every reachable state satisfies: the gate is coherent and counts the live sessions. -/
structure Sound (c : Clients) : Prop where
  coherent : c.gate.Coherent
  outstanding_eq : c.gate.outstanding = c.live.card

theorem sound_start : start.Sound := ⟨coherent_initial, rfl⟩

/-- The token of a sound state is cancelled exactly when shutdown was initiated and no session is
live. -/
theorem Sound.ready_iff (hc : c.Sound) :
    c.gate.ready = true ↔ c.gate.shuttingDown = true ∧ c.live = ∅ := by
  rw [hc.coherent.ready_eq, hc.outstanding_eq]
  simp

theorem Sound.step (hc : c.Sound) (e : Event) : (c.step e).Sound := by
  refine ⟨?_, ?_⟩
  · rw [gate_step]
    cases c.op? e with
    | none => exact hc.coherent
    | some op => exact hc.coherent.apply op
  · have hout := hc.outstanding_eq
    cases e with
    | enter i =>
      by_cases hi : i ∈ c.live
      · simpa [Clients.step, hi] using hout
      · cases h : c.gate.shuttingDown
        · simp [Clients.step, hi, acquire, h, Finset.card_insert_of_notMem hi, hout]
        · simpa [Clients.step, hi, acquire, h] using hout
    | drop i =>
      by_cases hi : i ∈ c.live
      · have hpos : 0 < c.live.card := Finset.card_pos.mpr ⟨i, hi⟩
        have := outstanding_apply (g := c.gate) .release
        simp only [apply] at this
        simp only [Clients.step, hi, if_true, this, Finset.card_erase_of_mem hi, hout]
      · simpa [Clients.step, hi] using hout
    | initiate =>
      have := outstanding_apply (g := c.gate) .initiateShutdown
      simp only [apply] at this
      simpa [Clients.step, this] using hout

theorem Sound.run (hc : c.Sound) (es : List Event) : (c.run es).Sound := by
  induction es generalizing c with
  | nil => exact hc
  | cons e es ih => exact ih (hc.step e)

/-- Along a run shutdown is initiated by an initiation and by nothing else. -/
theorem shuttingDown_run (es : List Event) :
    (c.run es).gate.shuttingDown = true ↔ c.gate.shuttingDown = true ∨ Event.initiate ∈ es := by
  induction es generalizing c with
  | nil => simp [run]
  | cons e es ih =>
    rw [run_cons, ih, shuttingDown_step]
    cases e <;> simp

/-! ## Runs from the start -/

/-- An initiation reports that it flipped the gate exactly when it sets the shutdown flag. -/
theorem initiation_wins_eq_rise :
    (fun (c : Clients) (e : Event) => e == .initiate && c.gate.initiateShutdown.1) =
      fun c e => !c.gate.shuttingDown && (c.step e).gate.shuttingDown := by
  funext c e
  rw [shuttingDown_step, initiateShutdown_fst]
  cases e <;> cases c.gate.shuttingDown <;> rfl

/-- The step that cancels the token: the initiation of shutdown when no session is live, or the
drop of the last live session of a gate that is shutting down. -/
theorem Sound.ready_rise (hc : c.Sound) (e : Event) :
    (!c.gate.ready && (c.step e).gate.ready) = true ↔
      (e = .initiate ∧ c.gate.shuttingDown = false ∧ c.live = ∅) ∨
        (∃ i, e = .drop i ∧ c.gate.shuttingDown = true ∧ c.live = {i}) := by
  have hc' := hc.step e
  rw [Bool.and_eq_true, Bool.not_eq_true', Bool.eq_false_iff, Ne, hc.ready_iff, hc'.ready_iff,
    shuttingDown_step]
  cases e with
  | enter i =>
    by_cases hsd : c.gate.shuttingDown = true
    · simp [step_enter_of_shuttingDown hsd]
    · simp [hsd]
  | drop i =>
    rw [live_drop, Finset.erase_eq_empty_iff]
    constructor
    · rintro ⟨hne, hsd, hl | hl⟩
      · exact absurd ⟨by simpa using hsd, hl⟩ hne
      · exact .inr ⟨i, rfl, by simpa using hsd, hl⟩
    · rintro (⟨h, -⟩ | ⟨j, hj, hsd, hl⟩)
      · cases h
      · cases hj
        refine ⟨fun h => ?_, by simpa using hsd, .inr hl⟩
        simp [hl] at h
  | initiate =>
    have hl : (c.step .initiate).live = c.live := rfl
    simp only [hl, Bool.or_true, true_and, beq_self_eq_true]
    cases hsd : c.gate.shuttingDown <;> simp

/-- Clients sharing a gate drain safely.  In every state a run reaches, the gate counts the live
sessions, a new session is admitted exactly when no initiation came before it, and the token is
cancelled exactly when shutdown was initiated and no session is live; the next step cancels it
exactly when it is the initiation with no session live or the drop of the last live session after
shutdown.  Along the run the token was cancelled once if shutdown was initiated and every session
has dropped, and never otherwise, and exactly one initiation reported that it flipped the gate if
any initiation came. -/
theorem run_drains (pre : List Event) (e : Event) :
    let c := start.run pre
    c.gate.outstanding = c.live.card ∧
    (∀ i ∉ c.live, i ∈ (c.step (.enter i)).live ↔ Event.initiate ∉ pre) ∧
    (c.gate.ready = true ↔ Event.initiate ∈ pre ∧ c.live = ∅) ∧
    ((!c.gate.ready && (c.step e).gate.ready) = true ↔
      (e = .initiate ∧ Event.initiate ∉ pre ∧ c.live = ∅) ∨
        (∃ i, e = .drop i ∧ Event.initiate ∈ pre ∧ c.live = {i})) ∧
    countSteps step (fun c e => !c.gate.ready && (c.step e).gate.ready) start pre =
      (if Event.initiate ∈ pre ∧ c.live = ∅ then 1 else 0) ∧
    countSteps step (fun c e => e == .initiate && c.gate.initiateShutdown.1) start pre =
      (if Event.initiate ∈ pre then 1 else 0) := by
  intro c
  have hc : c.Sound := sound_start.run pre
  have hsd : c.gate.shuttingDown = true ↔ Event.initiate ∈ pre :=
    (shuttingDown_run pre).trans (by simp [start, initial])
  have hready : c.gate.ready = true ↔ Event.initiate ∈ pre ∧ c.live = ∅ := by
    rw [hc.ready_iff, hsd]
  refine ⟨hc.outstanding_eq, fun i hi => ?_, hready, ?_, ?_, ?_⟩
  · rw [mem_live_enter hi, ← hsd]
    simp
  · rw [hc.ready_rise, ← hsd]
    simp
  · rw [countSteps_rise_of_monotone step (fun c => c.gate.ready) (fun c e h => ready_step h e)]
    simp only [start, initial, Bool.not_false, Bool.true_and]
    exact if_congr hready rfl rfl
  · rw [initiation_wins_eq_rise,
      countSteps_rise_of_monotone step (fun c => c.gate.shuttingDown)
        (fun c e h => by simp [shuttingDown_step, h])]
    simp only [start, initial, Bool.not_false, Bool.true_and]
    exact if_congr hsd rfl rfl

end Clients

end DeferredDigest.Gate
