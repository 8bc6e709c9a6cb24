/-!
# Service settings

How long a digest waits before it is computed, how many bytes a required field may have, and which
form fields are required: the password field first, then any extra fields, in order.
-/

namespace DeferredDigest

/-- The settings a service is built with. -/
structure ServiceConfig where
  /-- Milliseconds between a submission and its digest. -/
  hashDelay : Nat := 5000
  /-- The largest accepted byte length of a required field. -/
  maxPasswordLen : Nat := 128
  /-- The field that holds the password. -/
  passwordField : String := "password"
  /-- Further fields a submission must carry. -/
  extraFields : List String := []
deriving DecidableEq, Repr

namespace ServiceConfig

/-- The fields a submission must carry, the password field first. -/
def requiredFields (c : ServiceConfig) : List String := c.passwordField :: c.extraFields

end ServiceConfig

end DeferredDigest
