/-!
# The digest worker

Digests are computed in the background, a fixed delay after they are scheduled.  The worker keeps
a clock in milliseconds and the tasks not yet run, each with the time it falls due.  The clock
moves only when the caller lets time pass: every task due by the new time then runs, earlier due
times first and tasks due at the same time in the order they were scheduled.

A wait longer than thirty years is cut to thirty years: no task falls due further ahead than
`horizon`.

A bounded drain lets time pass up to a limit.  If every task falls due strictly before the limit
the drain finishes, the clock stops at the last due time and nothing is left; otherwise the clock
stops at the limit, the tasks due at or after it are reported as left over, and those due exactly
at the limit still run.
-/

namespace DeferredDigest

/-- A scheduled digest: the handle it is stored under, the bytes to digest, and its due time. -/
structure Task where
  handle : Nat
  payload : List UInt8
  due : Nat
deriving DecidableEq, Repr

/-- The worker's clock and the tasks that have not run, in the order they will run. -/
structure Worker where
  clock : Nat := 0
  pending : List Task := []
deriving DecidableEq, Repr

namespace Worker

/-- Puts a task behind every task due no later than it. -/
def enqueue : List Task → Task → List Task
  | [], t => [t]
  | u :: us, t => if u.due ≤ t.due then u :: enqueue us t else t :: u :: us

/-- The longest wait, thirty years of 365 days, in milliseconds. -/
def horizon : Nat := 30 * 365 * 86400 * 1000

/-- Schedules a digest to fall due `delay` milliseconds from now, or at the horizon if that is
sooner. -/
def schedule (w : Worker) (handle : Nat) (payload : List UInt8) (delay : Nat) : Worker :=
  { w with pending := enqueue w.pending ⟨handle, payload, w.clock + min delay horizon⟩ }

/-- Sets the clock to `t` and runs every task due by then; the run tasks come first, in the order
they ran. -/
def runUntil (w : Worker) (t : Nat) : List Task × Worker :=
  let (done, rest) := w.pending.partition (·.due ≤ t)
  (done, { clock := t, pending := rest })

/-- Lets `ms` milliseconds pass. -/
def advance (w : Worker) (ms : Nat) : List Task × Worker := w.runUntil (w.clock + ms)

/-- The time the last pending task falls due, or now if none is later. -/
def lastDue (w : Worker) : Nat := w.pending.foldl (fun m t => max m t.due) w.clock

/-- Lets time pass until every pending task has run. -/
def drain (w : Worker) : List Task × Worker := w.runUntil w.lastDue

/-- Lets time pass until every pending task has run or `limit` milliseconds are over, whichever
comes first; the count is the number of tasks still pending when the limit was reached. -/
def drainFor (w : Worker) (limit : Nat) : Nat × List Task × Worker :=
  let deadline := w.clock + limit
  if w.pending.all (·.due < deadline) then (0, w.drain)
  else ((w.pending.filter (deadline ≤ ·.due)).length, w.runUntil deadline)

end Worker

end DeferredDigest
