/-!
# Forms

The named text fields a request carries.  A name is bound at most once: when the same name
arrives twice, the first value is the one kept.
-/

namespace DeferredDigest

/-- Form fields in arrival order, each name once. -/
structure Form where
  fields : List (String × String) := []
deriving DecidableEq, Repr

namespace Form

/-- The form with no fields. -/
def empty : Form := {}

/-- The value bound to a name. -/
def get? (f : Form) (name : String) : Option String :=
  (f.fields.find? (·.1 == name)).map (·.2)

/-- Binds a name unless it is already bound. -/
def add (f : Form) (name value : String) : Form :=
  if f.fields.any (·.1 == name) then f else ⟨f.fields ++ [(name, value)]⟩

/-- The form of a list of pairs, where the first value given for a name wins. -/
def ofPairs (ps : List (String × String)) : Form :=
  ps.foldl (fun f p => f.add p.1 p.2) empty

end Form

end DeferredDigest
