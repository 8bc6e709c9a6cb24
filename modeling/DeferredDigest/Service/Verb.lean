/-!
# Verbs

The two request verbs the service answers, `GET` and `POST`.  Reading a verb is exact: the
name must match in full and in upper case.
-/

namespace DeferredDigest

/-- A request verb the service routes. -/
inductive Verb where
  | get
  | post
deriving DecidableEq, Repr

namespace Verb

/-- The verbs the service supports, in the order an `Allow` list names them. -/
def supported : List Verb := [.get, .post]

/-- The upper-case name of a verb. -/
def name : Verb → String
  | .get => "GET"
  | .post => "POST"

/-- The verb a name stands for, if it is one of the supported names exactly. -/
def ofName? (s : String) : Option Verb :=
  supported.find? (·.name = s)

end Verb

end DeferredDigest
