import DeferredDigest.Http.Front
import DeferredDigest.Service.Dispatch
/-!
# Sessions

A session drives one service through a script of steps and keeps the admissions that the script
holds open.  Besides requests, through `dispatch` or through the HTTP front end, a step can let
time pass for the worker, drain it, act on the gate or the store directly, schedule a digest,
or swap the router.  Letting time pass and HTTP requests need an executor.  A step that cannot be
taken leaves the session as it was.  When the script ends, the admissions still held are
released.
-/

namespace DeferredDigest

/-- One step of a script. -/
inductive Step where
  | dispatch (verb path : String) (form : Form)
  | http (req : Request)
  | advance (ms : Nat)
  | drain
  | drainFor (ms : Nat)
  | acquire
  | release
  | initiateShutdown
  /-- Takes an admission and holds it open. -/
  | hold
  /-- Ends the admission taken most recently. -/
  | letGo
  | storeInsert (handle : Nat) (digest : String)
  | storeGet (handle : Nat)
  | schedule (handle : Nat) (payload : List UInt8)
  | executor
  | replaceRoutes (router : Router)
  | observe
deriving Repr

namespace Step

/-- The name a script gives the step. -/
def name : Step → String
  | .dispatch .. => "dispatch"
  | .http _ => "http"
  | .advance _ => "advance"
  | .drain => "drain"
  | .drainFor _ => "drain_timeout"
  | .acquire => "admit"
  | .release => "release"
  | .initiateShutdown => "initiate_shutdown"
  | .hold => "enter"
  | .letGo => "leave"
  | .storeInsert .. => "store_insert"
  | .storeGet _ => "store_get"
  | .schedule .. => "schedule"
  | .executor => "runtime"
  | .replaceRoutes _ => "replace_routes"
  | .observe => "snapshot"

end Step

/-- What a step gives back. -/
inductive Answer where
  | outcome (o : Outcome)
  | response (r : Response)
  | done
  /-- Whether an admission, an initiation or a store write took effect. -/
  | decided (b : Bool)
  | held (granted : Bool) (count : Nat)
  | heldNow (count : Nat)
  | found (digest : Option String)
  | scheduled
  | refused (f : Fault)
  | remaining (count : Nat)
  | available (b : Bool)
deriving Repr

/-- Why a step could not be taken. -/
inductive StepError where
  /-- The named step needs an executor and the service has none. -/
  | noExecutor (step : String)
  | noHeldAdmission
  | badRequest (e : RequestError)
deriving DecidableEq, Repr

namespace StepError

/-- The text that reports the error. -/
def message : StepError → String
  | .noExecutor step => "\x60" ++ step ++ "\x60 needs the runtime"
  | .noHeldAdmission => "no held admission"
  | .badRequest e => e.subject ++ ": " ++ e.message

end StepError

/-- The observable state of a service. -/
structure Observation where
  outstanding : Nat
  shuttingDown : Bool
  ready : Bool
  lastHandle : Nat
  storeSize : Nat
  storeEmpty : Bool
  pending : Nat
  statsTotal : Nat
deriving DecidableEq, Repr

/-- A service and the number of admissions the script holds open. -/
structure Session where
  service : Service
  held : Nat := 0
deriving Repr

namespace Session

/-- A session on a fresh service. -/
def start (config : ServiceConfig) (hasher : Hasher) (executor : Bool) : Session :=
  ⟨Service.create config hasher executor, 0⟩

/-- What the script can see of the service. -/
def observe (s : Session) : Observation :=
  let v := s.service
  { outstanding := v.gate.outstanding
    shuttingDown := v.gate.shuttingDown
    ready := v.gate.ready
    lastHandle := v.lastHandle
    storeSize := v.store.size
    storeEmpty := v.store.isEmpty
    pending := v.worker.pending.length
    statsTotal := v.stats.count }

/-- Replaces the service. -/
def withService (s : Session) (v : Service) : Session := { s with service := v }

/-- Updates the gate. -/
def withGate (s : Session) (g : Gate) : Session := s.withService { s.service with gate := g }

/-- Fails, naming the step, unless the service has an executor. -/
def needExecutor (s : Session) (st : Step) : Except StepError Unit :=
  if s.service.executor then .ok () else .error (.noExecutor st.name)

/-- Takes one step. -/
def step (s : Session) : Step → Except StepError (Answer × Session)
  | .dispatch verb path form =>
    let (o, v) := s.service.dispatch verb path form
    .ok (.outcome o, s.withService v)
  | .http req => do
    s.needExecutor (.http req)
    let (r, v) ← (s.service.serve req).mapError .badRequest
    return (.response r, s.withService v)
  | .advance ms => do
    s.needExecutor (.advance ms)
    return (.done, s.withService (s.service.advance ms))
  | .drain => do
    s.needExecutor .drain
    return (.done, s.withService s.service.drain)
  | .drainFor ms => do
    s.needExecutor (.drainFor ms)
    let (n, v) := s.service.drainFor ms
    return (.remaining n, s.withService v)
  | .acquire =>
    let (b, g) := s.service.gate.acquire
    .ok (.decided b, s.withGate g)
  | .release => .ok (.done, s.withGate s.service.gate.release)
  | .initiateShutdown =>
    let (b, g) := s.service.gate.initiateShutdown
    .ok (.decided b, s.withGate g)
  | .hold =>
    match s.service.gate.acquire with
    | (true, g) => .ok (.held true (s.held + 1), { s.withGate g with held := s.held + 1 })
    | (false, _) => .ok (.held false s.held, s)
  | .letGo =>
    match s.held with
    | 0 => .error .noHeldAdmission
    | n + 1 => .ok (.heldNow n, { s.withGate s.service.gate.release with held := n })
  | .storeInsert h d =>
    let (b, st) := s.service.store.insert h d
    .ok (.decided b, s.withService { s.service with store := st })
  | .storeGet h => .ok (.found (s.service.store.get? h), s)
  | .schedule h payload =>
    match s.service.schedule h payload with
    | .ok v => .ok (.scheduled, s.withService v)
    | .error f => .ok (.refused f, s)
  | .executor => .ok (.available s.service.executor, s)
  | .replaceRoutes r => .ok (.done, s.withService (s.service.replaceRoutes r))
  | .observe => .ok (.done, s)

/-- The session after a step; a step that cannot be taken leaves the session as it was. -/
def next (s : Session) (st : Step) : Session :=
  match s.step st with
  | .ok (_, s') => s'
  | .error _ => s

/-- The session after a script of steps, taken in order. -/
def run (s : Session) (sts : List Step) : Session := sts.foldl next s

/-- Releases every admission still held. -/
def finish (s : Session) : Session :=
  { s.withGate (Nat.repeat Gate.release s.held s.service.gate) with held := 0 }

end Session

end DeferredDigest
