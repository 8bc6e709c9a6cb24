/-!
# The digest store

A write-once map from handles to digests.  The first value written under a handle stays: a later
write under the same handle is refused and reported as such.  Entries are kept in increasing order
of handle, so a store is determined by its contents, whatever order the writes came in.
-/

namespace DeferredDigest

/-- Stored digests in increasing order of handle; no handle appears twice. -/
structure Store where
  entries : List (Nat × String) := []
deriving DecidableEq, Repr

namespace Store

/-- The store with nothing in it. -/
def empty : Store := {}

/-- The digest stored under a handle. -/
def get? (s : Store) (h : Nat) : Option String :=
  (s.entries.find? (·.1 == h)).map (·.2)

/-- Whether a digest is stored under a handle. -/
def contains (s : Store) (h : Nat) : Bool := s.entries.any (·.1 == h)

/-- Puts an entry in its place in a list ordered by handle. -/
def place (h : Nat) (d : String) : List (Nat × String) → List (Nat × String)
  | [] => [(h, d)]
  | e :: rest => if h < e.1 then (h, d) :: e :: rest else e :: place h d rest

/-- Writes a digest under a free handle; the flag says whether the write happened. -/
def insert (s : Store) (h : Nat) (d : String) : Bool × Store :=
  if s.contains h then (false, s) else (true, ⟨place h d s.entries⟩)

/-- Writes digests in order; the flags are the answers of the writes, in the same order. -/
def insertAll (s : Store) : List (Nat × String) → List Bool × Store
  | [] => ([], s)
  | (h, d) :: rest =>
    let (b, s') := s.insert h d
    let (bs, s'') := s'.insertAll rest
    (b :: bs, s'')

/-- The number of stored digests. -/
def size (s : Store) : Nat := s.entries.length

/-- Whether nothing is stored. -/
def isEmpty (s : Store) : Bool := s.entries.isEmpty

end Store

end DeferredDigest
