import DeferredDigest.Digest
import DeferredDigest.Service.Config
import DeferredDigest.Service.Fault
import DeferredDigest.Service.Gate
import DeferredDigest.Service.Route
import DeferredDigest.Service.Stats
import DeferredDigest.Service.Store
import DeferredDigest.Service.Worker
/-!
# The service state

Everything a running service holds: its settings and digest rule, whether it has an executor to
compute digests on, the drain gate, the last handle it gave out, the store, the worker, the
statistics and the router.  Handles are given out in order from 1.  A task that runs writes its
digest into the store, unless a digest is already stored under its handle.
-/

namespace DeferredDigest

/-- A digest service. -/
structure Service where
  config : ServiceConfig
  hasher : Hasher
  /-- Whether an executor is available to compute digests. -/
  executor : Bool
  gate : Gate := {}
  /-- The last handle given out, `0` before the first. -/
  lastHandle : Nat := 0
  store : Store := {}
  worker : Worker := {}
  stats : Stats := {}
  router : Router := Router.standard
deriving DecidableEq, Repr

namespace Service

/-- A fresh service with the standard routes. -/
def create (config : ServiceConfig) (hasher : Hasher) (executor : Bool) : Service :=
  { config, hasher, executor }

/-- The digests of tasks that ran, under their handles, in the order the tasks ran. -/
def digests (s : Service) (done : List Task) : List (Nat × String) :=
  done.map fun t => (t.handle, s.hasher.apply t.payload)

/-- Stores the digests of tasks that ran, in order; a digest under a taken handle is dropped. -/
def complete (s : Service) (done : List Task) : Service :=
  { s with store := (s.store.insertAll (s.digests done)).2 }

/-- Schedules the digest of a payload under a handle, if there is an executor to compute it. -/
def schedule (s : Service) (handle : Nat) (payload : List UInt8) : Except Fault Service :=
  if s.executor then
    .ok { s with worker := s.worker.schedule handle payload s.config.hashDelay }
  else .error .runtimeUnavailable

/-- Lets `ms` milliseconds pass. -/
def advance (s : Service) (ms : Nat) : Service :=
  let (done, w) := s.worker.advance ms
  { s with worker := w }.complete done

/-- Lets time pass until every scheduled digest is stored or refused. -/
def drain (s : Service) : Service :=
  let (done, w) := s.worker.drain
  { s with worker := w }.complete done

/-- Drains for at most `limit` milliseconds; the count is the number of digests left over. -/
def drainFor (s : Service) (limit : Nat) : Nat × Service :=
  let (left, done, w) := s.worker.drainFor limit
  (left, { s with worker := w }.complete done)

/-- Replaces the router. -/
def replaceRoutes (s : Service) (r : Router) : Service := { s with router := r }

end Service

end DeferredDigest
