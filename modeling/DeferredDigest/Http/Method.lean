/-!
# Request methods

A request method is an HTTP token (RFC 9110 §5.6.2): one or more characters, each a letter, a
digit, or one of ``!#$%&'*+-.^_`|~``.  Method names are case-sensitive.
-/

namespace DeferredDigest.Method

/-- Whether a character may appear in a token. -/
def isTokenChar (c : Char) : Bool :=
  c.isAlphanum || "!#$%&'*+-.^_`|~".toList.contains c

/-- Whether a name is a valid request method. -/
def isValid (name : String) : Bool := !name.isEmpty && name.toList.all isTokenChar

end DeferredDigest.Method
