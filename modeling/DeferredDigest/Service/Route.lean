import DeferredDigest.Service.Fault
import DeferredDigest.Service.Verb
/-!
# Routes

A router maps a method name to the operation that serves it.  It has one table per verb and a
generic table that serves every verb; a method is looked up in its verb's table first and in the
generic table only when the verb's table has no entry.  Adding an entry replaces an earlier entry
for the same table and method.  A route may be timed, in which case the service counts its
successful replies in its statistics.
-/

namespace DeferredDigest

/-- What a route does with a call. -/
inductive Operation where
  /-- Accepts a password and schedules its digest. -/
  | submit
  /-- Returns the digest stored under the handle in the qualifier. -/
  | retrieve
  /-- Reports the statistics of timed requests. -/
  | stats
  /-- Initiates shutdown. -/
  | shutdown
  /-- Acknowledges with a fixed status and hands the call back to the caller, for diagnosis. -/
  | echo (status : String)
  /-- Refuses every call with the same fault. -/
  | refuse (fault : Fault)
deriving DecidableEq, Repr

/-- An operation and whether its successful replies are timed. -/
structure Route where
  operation : Operation
  timed : Bool := false
deriving DecidableEq, Repr

/-- Which table of a router an entry belongs to. -/
inductive Table where
  /-- The table consulted for one verb. -/
  | verb (v : Verb)
  /-- The table consulted for every verb after the verb's own. -/
  | generic
deriving DecidableEq, Repr

/-- A router entry: a table, a method name, and the route that serves it. -/
structure Entry where
  table : Table
  method : String
  route : Route
deriving DecidableEq, Repr

/-- Router entries, newest first, at most one per table and method. -/
structure Router where
  entries : List Entry := []
deriving DecidableEq, Repr

namespace Router

/-- The router with no routes. -/
def empty : Router := {}

/-- Adds a route, replacing any earlier one for the same table and method. -/
def insert (r : Router) (t : Table) (method : String) (route : Route) : Router :=
  ⟨⟨t, method, route⟩ :: r.entries.filter fun e => !(e.table == t && e.method == method)⟩

/-- The route of one table for a method. -/
def find? (r : Router) (t : Table) (method : String) : Option Route :=
  (r.entries.find? fun e => e.table == t && e.method == method).map (·.route)

/-- The route for a verb and method: the verb's table first, then the generic table. -/
def lookup (r : Router) (v : Verb) (method : String) : Option Route :=
  match r.find? (.verb v) method with
  | some route => some route
  | none => r.find? .generic method

/-- The service's own routes: `POST hash` submits and is timed, `GET hash` retrieves, `GET stats`
reports, and `shutdown` under any verb initiates shutdown. -/
def standard : Router :=
  (((empty.insert (.verb .post) "hash" ⟨.submit, true⟩).insert (.verb .get) "hash"
    ⟨.retrieve, false⟩).insert (.verb .get) "stats" ⟨.stats, false⟩).insert .generic "shutdown"
    ⟨.shutdown, false⟩

end Router

end DeferredDigest
