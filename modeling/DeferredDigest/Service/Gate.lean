/-!
# The drain gate

The gate admits requests while the service runs and counts those in flight.  Once shutdown is
initiated it admits nothing more, and it fires a one-shot *ready* signal as soon as the flag is set
and nothing is in flight: either at the initiation itself or at the release that brings the count
to zero.  A release with nothing in flight is ignored, so the count never goes below zero.

The signal has two parts: the gate's own record that it was given, kept under the gate's lock,
and the token that those waiting for the signal observe.  Giving the signal checks the record
first, so the token is cancelled at most once.

Main statement (kept by every operation from the initial gate): the signal has fired exactly when
shutdown was initiated and nothing is in flight.
-/

namespace DeferredDigest

/-- The admission state of the service. -/
structure Gate where
  /-- Whether shutdown was initiated. -/
  shuttingDown : Bool := false
  /-- How many admitted requests are in flight. -/
  outstanding : Nat := 0
  /-- Whether the ready signal was given, as recorded under the gate's lock. -/
  signalled : Bool := false
  /-- Whether the ready token is cancelled: what those waiting for the signal observe. -/
  ready : Bool := false
deriving DecidableEq, Repr

namespace Gate

/-- A gate that admits requests and has none in flight. -/
def initial : Gate := {}

/-- Gives the ready signal: records it and cancels the token, unless it was given before. -/
def signal (g : Gate) : Gate :=
  if g.signalled then g else { g with signalled := true, ready := true }

/-- Admits a request unless shutdown was initiated; the flag says whether it was admitted. -/
def acquire (g : Gate) : Bool × Gate :=
  if g.shuttingDown then (false, g) else (true, { g with outstanding := g.outstanding + 1 })

/-- Ends one admitted request.  With none in flight nothing happens; the release that empties a
gate that is shutting down fires the signal. -/
def release (g : Gate) : Gate :=
  match g.outstanding with
  | 0 => g
  | n + 1 =>
    let g' := { g with outstanding := n }
    if g'.shuttingDown && n == 0 then g'.signal else g'

/-- Sets the shutdown flag; the flag says whether this call was the one that set it.  With nothing
in flight the signal fires at once. -/
def initiateShutdown (g : Gate) : Bool × Gate :=
  if g.shuttingDown then (false, g)
  else
    let g' := { g with shuttingDown := true }
    (true, if g'.outstanding == 0 then g'.signal else g')

end Gate

end DeferredDigest
