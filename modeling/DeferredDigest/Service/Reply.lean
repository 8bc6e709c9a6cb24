import DeferredDigest.Service.Fault
import DeferredDigest.Service.Verb
import DeferredDigest.Service.Stats
import DeferredDigest.Text.JsonString
/-!
# Replies

A reply is a status code and a body.  The body is one of five records: the handle given to a
submission, a stored digest with its handle, a statistics snapshot, a plain acknowledgement, or
an error that repeats the status code, gives the fault's message and, for a verb that is not
allowed, lists the supported verbs.  Bodies are written as flat JSON objects.
-/

namespace DeferredDigest

/-- The content of a reply. -/
inductive Body where
  /-- A submission was accepted under a handle. -/
  | submitted (id : Nat)
  /-- The digest stored under a handle. -/
  | digest (id : Nat) (digest : String)
  /-- The statistics of timed requests. -/
  | stats (snapshot : Snapshot)
  /-- A plain acknowledgement. -/
  | ack (status : String)
  /-- A refusal: the status code, the message and maybe the verbs that are allowed. -/
  | error (code : Nat) (message : String) (allow : Option (List Verb))
deriving DecidableEq, Repr

/-- A status code and a body. -/
structure Reply where
  status : Nat
  body : Body
deriving DecidableEq, Repr

namespace Body

/-- A JSON array of verb names. -/
def verbList (vs : List Verb) : String :=
  "[" ++ ",".intercalate (vs.map fun v => JsonString.quote v.name) ++ "]"

/-- A JSON object of named members, each value already written. -/
def object (members : List (String × String)) : String :=
  "\x7b" ++ ",".intercalate (members.map fun m => JsonString.quote m.1 ++ ":" ++ m.2) ++ "\x7d"

/-- The JSON text of a body: a flat object; the verb list of an error only when present. -/
def render : Body → String
  | .submitted id => object [("id", toString id)]
  | .digest id d => object [("id", toString id), ("digest", JsonString.quote d)]
  | .stats s => object [("total", toString s.total), ("average", toString s.average)]
  | .ack status => object [("status", JsonString.quote status)]
  | .error code message allow =>
    object ([("error", toString code), ("message", JsonString.quote message)] ++
      match allow with
      | some vs => [("allow", verbList vs)]
      | none => [])

end Body

namespace Reply

/-- A successful reply. -/
def ok (body : Body) : Reply := ⟨200, body⟩

/-- The reply that reports a fault. -/
def ofFault (f : Fault) : Reply :=
  ⟨f.status, .error f.status f.message (if f.listsVerbs then some Verb.supported else none)⟩

/-- Whether the status code is in the 2xx range. -/
def success (r : Reply) : Bool := 200 ≤ r.status && r.status < 300

/-- The verbs an error body lists, if it lists any. -/
def allow (r : Reply) : Option (List Verb) :=
  match r.body with
  | .error _ _ allow => allow
  | _ => none

end Reply

end DeferredDigest
