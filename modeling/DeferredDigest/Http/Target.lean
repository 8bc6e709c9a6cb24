/-!
# Request targets

The request target of an HTTP request (RFC 9112 §3.2), read into the path and the query that the
service routes on.  Four forms are accepted:

* origin form, starting with `/`: the path, then optionally `?` and a query;
* `*` alone;
* absolute form, `scheme://authority` then an optional path and query, where an empty path reads
  as `/`; a scheme with nothing after it counts as an empty target;
* authority form, an authority alone, whose path is empty.

A `#` ends the target wherever it appears in the path or query; what follows it is dropped.
Characters outside the ranges each part admits are refused.  The path admits the unreserved and
sub-delimiter characters, `:`, `@`, `/`, `%`, the characters from `[` to `_`, `|`, and also `"`,
`{` and `}`, which clients send unencoded; the query admits every visible ASCII character but `"`,
`#`, `<` and `>`.  Both refuse control characters, DEL included, and accept all non-ASCII
characters.  An authority holds only URI characters;
brackets enclose at most one IPv6 literal, at most one `:` may stand outside brackets after any
user information, an `@` may not end it, and a `%` may appear only in the user information or
inside brackets.
-/

namespace DeferredDigest

/-- Why a request target was refused. -/
inductive TargetError where
  | empty
  | tooLong
  | invalidChar
  | invalidAuthority
  | invalidFormat
  | schemeTooLong
deriving DecidableEq, Repr

namespace TargetError

/-- The text that reports the error. -/
def message : TargetError → String
  | .empty => "empty string"
  | .tooLong => "uri too long"
  | .invalidChar => "invalid uri character"
  | .invalidAuthority => "invalid authority"
  | .invalidFormat => "invalid format"
  | .schemeTooLong => "scheme too long"

end TargetError

/-- The parts of a request target that routing uses. -/
structure Target where
  path : String
  query : Option String
deriving DecidableEq, Repr

namespace Target

/-- The longest target accepted, in bytes. -/
def maxLength : Nat := 65534

/-- The longest scheme accepted. -/
def maxSchemeLength : Nat := 64

/-- Whether a character may stand in a URI outside a query: unreserved, reserved but `%`. -/
def isUriChar (c : Char) : Bool :=
  c.isAlphanum || "!#$&'()*+,-./:;=?@[]_~".toList.contains c

/-- Whether a character may stand in a scheme: a letter, a digit, `+`, `-`, `.` or `~`, in any
position. -/
def isSchemeChar (c : Char) : Bool := c.isAlphanum || c = '+' || c = '-' || c = '.' || c = '~'

/-- Whether a character may stand unencoded in a path. -/
def isPathChar (c : Char) : Bool :=
  let n := c.toNat
  n = 0x21 || (0x24 ≤ n && n ≤ 0x3B) || n = 0x3D || (0x40 ≤ n && n ≤ 0x5F) ||
    (0x61 ≤ n && n ≤ 0x7A) || n = 0x7C || n = 0x7E || 0x80 ≤ n || c = '"' || c = '{' || c = '}'

/-- Whether a character may stand unencoded in a query. -/
def isQueryChar (c : Char) : Bool :=
  let n := c.toNat
  n = 0x21 || (0x24 ≤ n && n ≤ 0x3B) || n = 0x3D || (0x3F ≤ n && n ≤ 0x7E) || 0x80 ≤ n

/-- The query, up to a `#`. -/
def scanQuery : List Char → Except TargetError (List Char)
  | [] => .ok []
  | c :: cs =>
    if c = '#' then .ok []
    else if isQueryChar c then (c :: ·) <$> scanQuery cs
    else .error .invalidChar

/-- The path, up to a `?` or a `#`, and the query if a `?` starts one. -/
def scanPath : List Char → Except TargetError (List Char × Option (List Char))
  | [] => .ok ([], none)
  | c :: cs =>
    if c = '?' then (fun q => ([], some q)) <$> scanQuery cs
    else if c = '#' then .ok ([], none)
    else if isPathChar c then (fun pq => (c :: pq.1, pq.2)) <$> scanPath cs
    else .error .invalidChar

/-- What an authority scan has seen so far. -/
structure AuthorityScan where
  /-- Colons since the start, the last `@`, or the closing bracket. -/
  colons : Nat := 0
  opened : Bool := false
  closed : Bool := false
  /-- Whether a `%` was seen since the start, the last `@`, or the closing bracket. -/
  percent : Bool := false
  /-- The position of the last `@`. -/
  lastAt : Option Nat := none

/-- The scan after the character `c` at position `i`. -/
def AuthorityScan.next (st : AuthorityScan) (i : Nat) (c : Char) :
    Except TargetError AuthorityScan :=
  if c = ':' then
    if st.colons ≥ 8 then .error .invalidAuthority else .ok { st with colons := st.colons + 1 }
  else if c = '[' then
    if st.percent || st.opened then .error .invalidAuthority else .ok { st with opened := true }
  else if c = ']' then
    if !st.opened || st.closed then .error .invalidAuthority
    else .ok { st with closed := true, colons := 0, percent := false }
  else if c = '@' then .ok { st with lastAt := some i, colons := 0, percent := false }
  else if c = '%' then .ok { st with percent := true }
  else if isUriChar c then .ok st
  else .error .invalidChar

/-- Scans an authority from position `i` up to the first `/`, `?` or `#`; returns the scan and
the position where the authority ends. -/
def scanAuthority (st : AuthorityScan) (i : Nat) : List Char → Except TargetError (AuthorityScan × Nat)
  | [] => .ok (st, i)
  | c :: cs =>
    if c = '/' || c = '?' || c = '#' then .ok (st, i)
    else do scanAuthority (← st.next i c) (i + 1) cs

/-- The length of the authority at the start of the text. -/
def authorityLength (cs : List Char) : Except TargetError Nat := do
  let (st, n) ← scanAuthority {} 0 cs
  if st.opened != st.closed then throw .invalidAuthority
  if st.colons > 1 then throw .invalidAuthority
  if n > 0 && st.lastAt == some (n - 1) then throw .invalidAuthority
  if st.percent then throw .invalidAuthority
  return n

/-- How many leading characters a scheme and its `://` take, if the text starts with a scheme. -/
def schemePrefix (cs : List Char) : Except TargetError (Option Nat) :=
  let lower := cs.map Char.toLower
  if lower.take 7 = "http://".toList then .ok (some 7)
  else if lower.take 8 = "https://".toList then .ok (some 8)
  else if cs.length > 3 then
    let name := cs.takeWhile isSchemeChar
    match cs.drop name.length with
    | ':' :: '/' :: '/' :: _ =>
      if name.length > maxSchemeLength then .error .schemeTooLong
      else .ok (some (name.length + 3))
    | _ => .ok none
  else .ok none

/-- The path of an absolute-form target: an empty path reads as `/`. -/
def absolutePath (path : List Char) : String :=
  if path.isEmpty then "/" else String.ofList path

/-- Reads a request target. -/
def parse (s : String) : Except TargetError Target := do
  let cs := s.toList
  if s.utf8ByteSize > maxLength then throw .tooLong
  match cs with
  | [] => throw .empty
  | ['/'] => return ⟨"/", none⟩
  | ['*'] => return ⟨"*", none⟩
  | '/' :: _ =>
    let (p, q) ← scanPath cs
    return ⟨String.ofList p, q.map String.ofList⟩
  | _ =>
    match ← schemePrefix cs with
    | none =>
      -- a lone character is read as an authority and must be one in full
      let n ← authorityLength cs
      if n != cs.length then
        throw (if s.utf8ByteSize = 1 then .invalidChar else .invalidFormat)
      return ⟨"", none⟩
    | some k =>
      let rest := cs.drop k
      if rest.isEmpty then throw .empty
      let n ← authorityLength rest
      if n = 0 then throw .invalidFormat
      let (p, q) ← scanPath (rest.drop n)
      return ⟨absolutePath p, q.map String.ofList⟩

end Target

end DeferredDigest
