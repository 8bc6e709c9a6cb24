import DeferredDigest.Net.SocketAddr
import DeferredDigest.Server.Options
import DeferredDigest.Service.Config
/-!
# Server settings

The settings a server runs with, checked from its options: the longest accepted password must be
at least one byte, which is checked first, and the address must be a socket address.  The other
service settings keep their defaults.
-/

namespace DeferredDigest

/-- Why options make no valid server settings. -/
inductive ConfigError where
  | zeroPasswordLength
  | badAddress (addr : String)
deriving DecidableEq, Repr

namespace ConfigError

/-- The text that reports the error. -/
def message : ConfigError → String
  | .zeroPasswordLength => "MAX_PASSWORD_LEN must be greater than 0"
  | .badAddress addr => "invalid SERVER_ADDR `" ++ addr ++ "`: invalid socket address syntax"

end ConfigError

/-- What the server runs with. -/
structure ServerConfig where
  address : SocketAddr
  /-- Seconds to wait for digests still running at shutdown. -/
  shutdownTimeout : Nat
  service : ServiceConfig
deriving DecidableEq, Repr

namespace ServerConfig

/-- Checks options and builds the settings. -/
def ofOptions (o : Options) : Except ConfigError ServerConfig := do
  if o.maxPasswordLen = 0 then throw .zeroPasswordLength
  let some address := SocketAddr.parse? o.serverAddr
    | throw (.badAddress o.serverAddr)
  return { address, shutdownTimeout := o.shutdownTimeout
           service := { hashDelay := o.hashDelayMs, maxPasswordLen := o.maxPasswordLen } }

end ServerConfig

end DeferredDigest
