import DeferredDigest.Service.Fault
import DeferredDigest.Service.Form
import DeferredDigest.Service.Verb
/-!
# Calls

A request path is cut at every `/`.  The piece before the first `/` is ignored, the second piece
names the method, and the pieces after it are the method's qualifier; any of them may be empty.
A path without `/` names no method at all.  A call gathers the verb, the method, the remaining
pieces and the form a handler works on.
-/

namespace DeferredDigest

/-- What a handler is given. -/
structure Call where
  verb : Verb
  method : String
  rest : List String
  form : Form
deriving DecidableEq, Repr

namespace Call

/-- The single piece after the method, if there is exactly one. -/
def qualifier (c : Call) : Option String :=
  match c.rest with
  | [q] => some q
  | _ => none

end Call

namespace Path

/-- The pieces of a path between its `/` separators, in order. -/
def segments (path : String) : List String :=
  (path.toList.splitOn '/').map String.ofList

/-- The method a path names and the pieces after it; a path without `/` names no method, and
the fault then quotes the whole path. -/
def resolve (path : String) : Except Fault (String × List String) :=
  match segments path with
  | _ :: method :: rest => .ok (method, rest)
  | _ => .error (.methodNotAllowed path)

end Path

end DeferredDigest
