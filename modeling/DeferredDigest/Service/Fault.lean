/-!
# Faults

The reasons a request is refused.  Each fault has one message, shown to the client, and one
status code: a missing or over-long field is a failed precondition (412), a path or handle that
cannot be read is unprocessable (422), an unknown handle is not found (404), an unknown method or
verb is not allowed (405), and a service that is draining or has no executor is unavailable (503).
-/

namespace DeferredDigest

/-- Why a request was refused. -/
inductive Fault where
  /-- A required form field is absent or empty. -/
  | missingField (field : String)
  /-- A form field has more bytes than the configured maximum. -/
  | fieldTooLong (field : String) (len max : Nat)
  /-- The path has the wrong shape for the method. -/
  | malformedPath (reason : String)
  /-- The handle segment is not an unsigned 64-bit numeral. -/
  | invalidHandle (raw : String)
  /-- No digest is stored under the handle. -/
  | notFound (handle : Nat)
  /-- No route serves the method. -/
  | methodNotAllowed (method : String)
  /-- The verb is not one the service routes. -/
  | verbNotAllowed (verb : String)
  /-- The service is draining and admits no new request. -/
  | serviceShutdown
  /-- There is no executor to compute digests on. -/
  | runtimeUnavailable
deriving DecidableEq, Repr

namespace Fault

/-- The text of a name as the messages quote it, between backticks. -/
def quoted (s : String) : String := "`" ++ s ++ "`"

/-- The message shown to the client. -/
def message : Fault → String
  | .missingField field => "Missing required field " ++ quoted field
  | .fieldTooLong field len max =>
    "Field " ++ quoted field ++ " is " ++ toString len ++ " bytes long, maximum is " ++
      toString max
  | .malformedPath reason => "Malformed path: " ++ reason
  | .invalidHandle raw => "Invalid handle " ++ quoted raw
  | .notFound handle => "No digest for handle " ++ toString handle
  | .methodNotAllowed method => "Method " ++ quoted method ++ " is not allowed"
  | .verbNotAllowed verb => "Verb " ++ quoted verb ++ " is not allowed"
  | .serviceShutdown => "Service is shutting down"
  | .runtimeUnavailable => "No async runtime available to compute digests"

/-- The status code of the reply that reports the fault. -/
def status : Fault → Nat
  | .missingField _ | .fieldTooLong _ _ _ => 412
  | .malformedPath _ | .invalidHandle _ => 422
  | .notFound _ => 404
  | .methodNotAllowed _ | .verbNotAllowed _ => 405
  | .serviceShutdown | .runtimeUnavailable => 503

/-- Whether the reply lists the supported verbs: only for a verb that is not allowed. -/
def listsVerbs : Fault → Bool
  | .verbNotAllowed _ => true
  | _ => false

end Fault

end DeferredDigest
