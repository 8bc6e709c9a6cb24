import DeferredDigest.Hash.Sha512
import DeferredDigest.Text.Base64
/-!
# Password digests

The digest the service stores for a password: the SHA-512 hash of the password's bytes, written
in padded base64, so always 88 characters.  A service can also be built with a stand-in digest
that only records the payload's length, which makes stored values easy to read in tests of the
service's bookkeeping.
-/

namespace DeferredDigest

/-- The rule that turns a submitted payload into the text the store keeps. -/
inductive Hasher where
  /-- Padded base64 of the SHA-512 hash. -/
  | sha512Base64
  /-- The text `len=` followed by the payload's length in bytes. -/
  | lengthTag
deriving DecidableEq, Repr

namespace Hasher

/-- The stored text for a payload. -/
def apply : Hasher → List UInt8 → String
  | .sha512Base64, bs => Base64.encode (Sha512.hash bs)
  | .lengthTag, bs => "len=" ++ toString bs.length

end Hasher

end DeferredDigest
