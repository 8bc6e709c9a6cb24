import DeferredDigest.Service.Basic
import DeferredDigest.Service.Call
import DeferredDigest.Service.Form
import DeferredDigest.Service.Reply
import DeferredDigest.Text.Decimal
/-!
# Dispatch

How the service answers a request given as a verb, a path and a form.  The gate admits the
request first; a draining service answers that it is shutting down.  Then the verb is read, the
path is cut into method and qualifier, and the route is looked up; any failure there is the reply.
Otherwise the route's operation runs, a timed route that succeeded is counted in the statistics,
and the admission ends before the reply is returned.

A submission checks each required field in order (present, non-empty, not longer than the
maximum), then that the path has no qualifier, then that an executor is available; only then is
a handle given out and the digest scheduled.  A retrieval needs exactly one qualifier, which must
be an unsigned 64-bit numeral naming a stored digest.
-/

namespace DeferredDigest

/-- A reply, and the call itself when the route echoes it. -/
structure Outcome where
  reply : Reply
  echoed : Option Call := none
deriving DecidableEq, Repr

namespace Service

/-- Checks one required field. -/
def checkField (max : Nat) (form : Form) (field : String) : Except Fault Unit :=
  match form.get? field with
  | none => .error (.missingField field)
  | some v =>
    if v.isEmpty then .error (.missingField field)
    else if v.utf8ByteSize > max then .error (.fieldTooLong field v.utf8ByteSize max)
    else .ok ()

/-- Checks the required fields in order and returns the password. -/
def validate (c : ServiceConfig) (form : Form) : Except Fault String := do
  c.requiredFields.forM (checkField c.maxPasswordLen form)
  return (form.get? c.passwordField).getD ""

/-- Accepts a submission: gives out the next handle and schedules the password's digest. -/
def submit (s : Service) (c : Call) : Except Fault (Body × Service) := do
  let password ← validate s.config c.form
  unless c.rest.isEmpty do
    throw (.malformedPath ("`" ++ c.method ++ "` takes no qualifier"))
  unless s.executor do
    throw .runtimeUnavailable
  let id := s.lastHandle + 1
  let s' ← { s with lastHandle := id }.schedule id password.toUTF8.toList
  return (.submitted id, s')

/-- Looks up the digest named by the call's qualifier. -/
def retrieve (s : Service) (c : Call) : Except Fault Body := do
  let some raw := c.qualifier
    | throw (.malformedPath ("expected /" ++ c.method ++ "/<id>"))
  let some id := Decimal.parseU64? raw
    | throw (.invalidHandle raw)
  let some d := s.store.get? id
    | throw (.notFound id)
  return .digest id d

/-- Runs an operation on a call. -/
def perform (s : Service) (op : Operation) (c : Call) : Outcome × Service :=
  match op with
  | .submit =>
    match s.submit c with
    | .ok (b, s') => (⟨Reply.ok b, none⟩, s')
    | .error f => (⟨Reply.ofFault f, none⟩, s)
  | .retrieve =>
    match s.retrieve c with
    | .ok b => (⟨Reply.ok b, none⟩, s)
    | .error f => (⟨Reply.ofFault f, none⟩, s)
  | .stats => (⟨Reply.ok (.stats s.stats.snapshot), none⟩, s)
  | .shutdown => (⟨Reply.ok (.ack "shutting down"), none⟩, { s with gate := s.gate.initiateShutdown.2 })
  | .echo status => (⟨Reply.ok (.ack status), some c⟩, s)
  | .refuse f => (⟨Reply.ofFault f, none⟩, s)

/-- Finds the route and builds the call for a verb, a path and a form. -/
def resolve (s : Service) (verb path : String) (form : Form) : Except Fault (Route × Call) := do
  let some v := Verb.ofName? verb
    | throw (.verbNotAllowed verb)
  let (method, rest) ← Path.resolve path
  let some route := s.router.lookup v method
    | throw (.methodNotAllowed method)
  return (route, ⟨v, method, rest, form⟩)

/-- Runs an admitted request.  Handling takes no time on the service's clock, so a timed success
records a zero latency. -/
def handle (s : Service) (verb path : String) (form : Form) : Outcome × Service :=
  match s.resolve verb path form with
  | .error f => (⟨Reply.ofFault f, none⟩, s)
  | .ok (route, call) =>
    let (out, s') := s.perform route.operation call
    if route.timed && out.reply.success then (out, { s' with stats := s'.stats.record Duration.zero })
    else (out, s')

/-- Answers a request: admission, routing, the operation, and the end of the admission. -/
def dispatch (s : Service) (verb path : String) (form : Form) : Outcome × Service :=
  match s.gate.acquire with
  | (false, _) => (⟨Reply.ofFault .serviceShutdown, none⟩, s)
  | (true, g) =>
    let (out, s') := { s with gate := g }.handle verb path form
    (out, { s' with gate := s'.gate.release })

end Service

end DeferredDigest
