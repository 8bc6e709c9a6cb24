import DeferredDigest.Service.Gate

/-!
# Coherence of the drain gate

Three operations change a gate: admitting a request, releasing one, and initiating shutdown.
This file follows a gate through any sequence of them from the initial gate, releases that match
no admission included, and shows that it stays *coherent*: the signal is recorded exactly when the
token is cancelled, and that is exactly when shutdown was initiated and nothing is in flight.

Along such a run the shutdown flag and the signal never go back, the count never grows once
shutdown was initiated, a release with nothing in flight changes nothing, only the first initiation
reports that it flipped the gate, and an operation gives the signal only to a gate that has not
given it: the guard in `Gate.signal` never has to suppress a second signal, and the token is
cancelled at most once.

The counting of steps along a run (`countSteps`) is stated for any step function, since the
clients of `Proofs/Gate/Clients` count along their own runs in the same way.
-/

namespace DeferredDigest

/-! ## Counting the steps of a run -/

section Counting

variable {σ α : Type} (step : σ → α → σ)

/-- How many steps of a run from `s` satisfy `p`, each judged at the state it is taken from. -/
def countSteps (p : σ → α → Bool) : σ → List α → Nat
  | _, [] => 0
  | s, a :: as => (if p s a then 1 else 0) + countSteps p (step s a) as

/-- A flag that no step clears stays set along the rest of a run. -/
theorem foldl_of_monotone (f : σ → Bool) (hf : ∀ s a, f s = true → f (step s a) = true)
    {s : σ} (hs : f s = true) (as : List α) : f (as.foldl step s) = true := by
  induction as generalizing s with
  | nil => exact hs
  | cons a as ih => exact ih (hf s a hs)

/-- A flag that no step clears rises at most once along a run: exactly when it is false at the
start and true at the end. -/
theorem countSteps_rise_of_monotone (f : σ → Bool)
    (hf : ∀ s a, f s = true → f (step s a) = true) (s : σ) (as : List α) :
    countSteps step (fun s a => !f s && f (step s a)) s as =
      if !f s && f (as.foldl step s) then 1 else 0 := by
  induction as generalizing s with
  | nil => simp [countSteps]
  | cons a as ih =>
    simp only [countSteps, List.foldl_cons, ih]
    by_cases hs : f s = true
    · simp [hs, hf s a hs]
    · by_cases hs' : f (step s a) = true
      · simp [hs, hs', foldl_of_monotone step f hf hs' as]
      · simp [hs, hs']

end Counting

namespace Gate

variable {g : Gate} {n : Nat}

/-! ## The operations one at a time -/

@[simp] theorem signal_shuttingDown : g.signal.shuttingDown = g.shuttingDown := by
  unfold signal; split <;> rfl

@[simp] theorem signal_outstanding : g.signal.outstanding = g.outstanding := by
  unfold signal; split <;> rfl

@[simp] theorem signal_signalled : g.signal.signalled = true := by
  unfold signal; split <;> simp_all

/-- The token is cancelled by a signal that was not given before. -/
@[simp] theorem signal_ready : g.signal.ready = (g.ready || !g.signalled) := by
  unfold signal; split <;> simp_all

theorem acquire_of_shuttingDown (h : g.shuttingDown = true) : g.acquire = (false, g) := by
  simp [acquire, h]

theorem acquire_of_open (h : g.shuttingDown = false) :
    g.acquire = (true, { g with outstanding := g.outstanding + 1 }) := by
  simp [acquire, h]

/-- A release with nothing in flight changes nothing. -/
theorem release_of_zero (h : g.outstanding = 0) : g.release = g := by
  simp [release, h]

theorem release_of_succ (h : g.outstanding = n + 1) :
    g.release = if g.shuttingDown && n == 0 then { g with outstanding := n }.signal
      else { g with outstanding := n } := by
  simp [release, h]

theorem initiateShutdown_of_shuttingDown (h : g.shuttingDown = true) :
    g.initiateShutdown = (false, g) := by
  simp [initiateShutdown, h]

theorem initiateShutdown_of_open (h : g.shuttingDown = false) :
    g.initiateShutdown = (true, if g.outstanding == 0 then { g with shuttingDown := true }.signal
      else { g with shuttingDown := true }) := by
  simp [initiateShutdown, h]

/-- An open gate that admits a request and releases it is left as it was. -/
theorem release_admitted (h : g.shuttingDown = false) :
    ({ g with outstanding := g.outstanding + 1 } : Gate).release = g := by
  rw [release_of_succ rfl]
  cases g
  simp_all

/-- Only the call that sets the shutdown flag reports `true`. -/
@[simp] theorem initiateShutdown_fst : g.initiateShutdown.1 = !g.shuttingDown := by
  cases h : g.shuttingDown
  · simp [initiateShutdown_of_open h]
  · simp [initiateShutdown_of_shuttingDown h]

/-! ## Operations and runs -/

/-- An operation on the gate, as a client calls it. -/
inductive Op where
  | acquire
  | release
  | initiateShutdown
deriving DecidableEq, Repr

/-- The gate after an operation. -/
def apply (g : Gate) : Op → Gate
  | .acquire => g.acquire.2
  | .release => g.release
  | .initiateShutdown => g.initiateShutdown.2

/-- The gate after a sequence of operations, taken in order. -/
def runOps (g : Gate) (ops : List Op) : Gate := ops.foldl apply g

/-- Whether an operation gives the ready signal on its way: a release that takes the last
request of a gate that is shutting down, or an initiation of shutdown with nothing in flight. -/
def Op.signals : Op → Gate → Bool
  | .acquire, _ => false
  | .release, g => g.shuttingDown && g.outstanding == 1
  | .initiateShutdown, g => !g.shuttingDown && g.outstanding == 0

@[simp] theorem runOps_nil : g.runOps [] = g := rfl

theorem runOps_cons (op : Op) (ops : List Op) : g.runOps (op :: ops) = (g.apply op).runOps ops :=
  rfl

/-- What an operation does to each part of the gate.  An admission counts one more request
unless the gate is shutting down, a release counts one less, stopping at zero, and an initiation
sets the shutdown flag.  The operations that signal record the signal, and cancel the token if
the signal had not been given. -/
theorem apply_eq (op : Op) :
    g.apply op =
      { shuttingDown := g.shuttingDown || op == .initiateShutdown
        outstanding := match op with
          | .acquire => if g.shuttingDown then g.outstanding else g.outstanding + 1
          | .release => g.outstanding - 1
          | .initiateShutdown => g.outstanding
        signalled := g.signalled || op.signals g
        ready := g.ready || (op.signals g && !g.signalled) } := by
  obtain ⟨sd, out, sig, rdy⟩ := g
  cases op with
  | acquire => cases sd <;> simp [apply, acquire, Op.signals]
  | release =>
    -- the release that takes the last request is the only one that can signal
    rcases out with _ | _ | n
    · simp [apply, release, Op.signals]
    · cases sd <;> cases sig <;> simp [apply, release, signal, Op.signals]
    · simp [apply, release, Op.signals]
  | initiateShutdown =>
    cases sd
    · rcases out with _ | n <;> cases sig <;> simp [apply, initiateShutdown, signal, Op.signals]
    · simp [apply, initiateShutdown, Op.signals]

/-- The shutdown flag is set by an initiation and by nothing else, and never cleared. -/
@[simp] theorem shuttingDown_apply (op : Op) :
    (g.apply op).shuttingDown = (g.shuttingDown || op == .initiateShutdown) :=
  congrArg Gate.shuttingDown (apply_eq op)

@[simp] theorem outstanding_apply (op : Op) :
    (g.apply op).outstanding = match op with
      | .acquire => if g.shuttingDown then g.outstanding else g.outstanding + 1
      | .release => g.outstanding - 1
      | .initiateShutdown => g.outstanding :=
  congrArg Gate.outstanding (apply_eq op)

/-- `Op.signals` is exactly where the signal is given: it is recorded by the operations that
signal, and left as it was by every other. -/
@[simp] theorem signalled_apply (op : Op) :
    (g.apply op).signalled = (g.signalled || op.signals g) :=
  congrArg Gate.signalled (apply_eq op)

@[simp] theorem ready_apply (op : Op) :
    (g.apply op).ready = (g.ready || (op.signals g && !g.signalled)) :=
  congrArg Gate.ready (apply_eq op)

/-! ## Coherence -/

/-- A coherent gate: the signal is recorded exactly when the token is cancelled, and that is
exactly when shutdown was initiated and nothing is in flight. -/
structure Coherent (g : Gate) : Prop where
  signalled_eq_ready : g.signalled = g.ready
  ready_eq : g.ready = (g.shuttingDown && g.outstanding == 0)

theorem coherent_initial : initial.Coherent := ⟨rfl, rfl⟩

/-- An operation signals only a coherent gate that has not signalled: one that was not shutting
down, or still had a request in flight. -/
theorem Coherent.signalled_of_signals (hg : g.Coherent) {op : Op} (h : op.signals g = true) :
    g.signalled = false := by
  rw [hg.signalled_eq_ready, hg.ready_eq]
  cases op <;> simp_all [Op.signals]

/-- Every operation keeps a gate coherent. -/
theorem Coherent.apply (hg : g.Coherent) (op : Op) : (g.apply op).Coherent := by
  obtain ⟨hs, hr⟩ := hg
  refine ⟨?_, ?_⟩
  · simp only [signalled_apply, ready_apply, hs]
    cases g.ready <;> simp
  · cases op <;> cases hsd : g.shuttingDown <;> simp [Op.signals, hs, hr, hsd]
    -- left: a release from a gate that is shutting down, which empties it from one or from zero
    rw [Bool.eq_iff_iff]
    simp only [Bool.or_eq_true, beq_iff_eq, Bool.and_eq_true, Bool.not_eq_eq_eq_not,
      Bool.not_true, beq_eq_false_iff_ne]
    omega

theorem Coherent.runOps (hg : g.Coherent) (ops : List Op) : (g.runOps ops).Coherent := by
  induction ops generalizing g with
  | nil => exact hg
  | cons op ops ih => exact ih (hg.apply op)

/-- In a coherent gate the token is cancelled exactly by the operations that signal. -/
theorem Coherent.ready_rise (hg : g.Coherent) (op : Op) :
    (!g.ready && (g.apply op).ready) = op.signals g := by
  cases h : op.signals g
  · simp [h]
  · have hs := hg.signalled_of_signals h
    have hr : g.ready = false := hg.signalled_eq_ready ▸ hs
    simp [h, hs, hr]

/-- A session that enters an open coherent gate, initiates shutdown and leaves: afterwards the
gate is shutting down, counts what it counted before, and has cancelled the token exactly when no
other request was in flight. -/
theorem Coherent.shutdown_session (hg : g.Coherent) (h : g.shuttingDown = false) :
    (g.runOps [.acquire, .initiateShutdown, .release]).shuttingDown = true ∧
      (g.runOps [.acquire, .initiateShutdown, .release]).outstanding = g.outstanding ∧
      (g.runOps [.acquire, .initiateShutdown, .release]).ready = (g.outstanding == 0) := by
  have hr : g.ready = false := by rw [hg.ready_eq, h]; rfl
  have hs : g.signalled = false := hg.signalled_eq_ready ▸ hr
  simp [Gate.runOps, Op.signals, h, hr, hs]

/-- After a run the gate is shutting down exactly when it was at the start or the run initiated
shutdown. -/
theorem shuttingDown_runOps (ops : List Op) :
    (g.runOps ops).shuttingDown = true ↔ g.shuttingDown = true ∨ Op.initiateShutdown ∈ ops := by
  induction ops generalizing g with
  | nil => simp
  | cons op ops ih =>
    rw [runOps_cons, ih, shuttingDown_apply]
    cases op <;> simp

/-! ## Runs from the initial gate -/

/-- Every gate reached from the initial gate by admissions, releases (matched or not) and
initiations of shutdown is coherent, and the next operation, whichever it is, keeps the shutdown
flag and the signal once set, never raises the count of a gate that is shutting down, changes
nothing if it is a release with nothing in flight, and signals only a gate that has not
signalled, cancelling the token exactly then.  Initiation reports that it flipped the gate
exactly when no earlier operation initiated shutdown, and along the whole run the token is
cancelled at most once. -/
theorem runOps_coherent_and_monotone (pre : List Op) (op : Op) :
    let g := initial.runOps pre
    let g' := g.apply op
    (g.signalled = g.ready ∧ g.ready = (g.shuttingDown && g.outstanding == 0)) ∧
    (g.shuttingDown = true → g'.shuttingDown = true) ∧
    (g.signalled = true → g'.signalled = true) ∧
    (g.shuttingDown = true → g'.outstanding ≤ g.outstanding) ∧
    (op = .release → g.outstanding = 0 → g' = g) ∧
    (g.initiateShutdown.1 = true ↔ Op.initiateShutdown ∉ pre) ∧
    (op.signals g = true → g.signalled = false) ∧
    (!g.ready && g'.ready) = op.signals g ∧
    countSteps apply (fun g op => !g.ready && (g.apply op).ready) initial pre ≤ 1 := by
  intro g g'
  have hg : g.Coherent := coherent_initial.runOps pre
  refine ⟨⟨hg.signalled_eq_ready, hg.ready_eq⟩, fun h => by simp [g', h],
    fun h => by simp [g', h], fun h => ?_, ?_, ?_, hg.signalled_of_signals, hg.ready_rise op, ?_⟩
  · cases op <;> simp [g', h]
  · rintro rfl h
    exact release_of_zero h
  · have hs := shuttingDown_runOps (g := initial) pre
    simp only [initiateShutdown_fst, Bool.not_eq_eq_eq_not, Bool.not_true]
    cases hsd : g.shuttingDown <;> simp_all [g, initial]
  · -- the token is never uncancelled, so it is cancelled at most once along the run
    rw [countSteps_rise_of_monotone apply ready (fun g op h => by simp [h])]
    split <;> omega

end Gate

end DeferredDigest
