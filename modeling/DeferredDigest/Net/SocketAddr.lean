/-!
# Socket addresses

A socket address is an IP address and a 16-bit endpoint number `n`, written `a.b.c.d:n` for
IPv4 or `[address]:n` for IPv6, where an IPv6 address may carry a numeric zone, `[address%zone]:n`.

Reading follows the textual forms of RFC 4291 §2.2 and RFC 6874 closely:

* an IPv4 octet is one to three decimal digits with no leading zero, at most 255;
* an IPv6 group is one to four hexadecimal digits; a `::` stands for one or more zero groups; an
  IPv4 address may take the place of the last two groups, but not before the `::`;
* the endpoint number is decimal, leading zeros allowed, at most 65535; a zone is decimal, at
  most `2³² - 1`;
* the whole text must be read.

Writing IPv6 follows RFC 5952: lower-case hexadecimal without leading zeros, the longest run of
two or more zero groups (the first of equal runs) written `::`, and an IPv4-mapped address written
`::ffff:a.b.c.d`.  A zone of zero is not written.
-/

namespace DeferredDigest

/-- An IPv4 address: four octets, most significant first. -/
structure Ipv4Addr where
  octets : List Nat
deriving DecidableEq, Repr

/-- An IPv6 address: eight 16-bit groups, most significant first. -/
structure Ipv6Addr where
  segments : List Nat
deriving DecidableEq, Repr

/-- An IP address with an endpoint number. -/
inductive SocketAddr where
  | v4 (ip : Ipv4Addr) (portNumber : Nat)
  | v6 (ip : Ipv6Addr) (portNumber : Nat) (zone : Nat)
deriving DecidableEq, Repr

namespace Ipv4Addr

/-- The two IPv6 groups an IPv4 address stands for. -/
def groups (a : Ipv4Addr) : List Nat :=
  match a.octets with
  | [p, q, r, s] => [p * 256 + q, r * 256 + s]
  | _ => [0, 0]

/-- The dotted decimal text of an IPv4 address. -/
def render (a : Ipv4Addr) : String := ".".intercalate (a.octets.map toString)

end Ipv4Addr

namespace SocketAddr

/-- A reader takes what it recognises from the front of the text; failing consumes nothing. -/
abbrev Reader := StateT (List Char) Option

/-- The value of a digit in base 10 or 16. -/
def digitValue (radix : Nat) (c : Char) : Option Nat :=
  let n := c.toNat
  if 0x30 ≤ n && n ≤ 0x39 then some (n - 0x30)
  else if radix = 16 && 0x61 ≤ n && n ≤ 0x66 then some (n - 0x61 + 10)
  else if radix = 16 && 0x41 ≤ n && n ≤ 0x46 then some (n - 0x41 + 10)
  else none

/-- Reads one given character. -/
def char (c : Char) : Reader Unit := fun cs =>
  match cs with
  | d :: rest => if d = c then some ((), rest) else none
  | [] => none

/-- Reads a number: all the digits that follow, at least one and at most `maxDigits` of them,
with a value at most `bound`, and, unless `zeroPrefix`, no leading zero before another digit. -/
def number (radix : Nat) (maxDigits : Option Nat) (zeroPrefix : Bool) (bound : Nat) :
    Reader Nat := fun cs =>
  let ds := cs.takeWhile fun c => (digitValue radix c).isSome
  let value := ds.foldl (fun acc c => acc * radix + (digitValue radix c).getD 0) 0
  let tooLong := match maxDigits with
    | some m => ds.length > m
    | none => false
  if ds.isEmpty || tooLong || value > bound then none
  else if !zeroPrefix && ds.head? = some '0' && ds.length > 1 then none
  else some (value, cs.drop ds.length)

/-- Reads an IPv4 octet. -/
def octet : Reader Nat := number 10 (some 3) false 255

/-- Reads an IPv4 address. -/
def ipv4 : Reader Ipv4Addr := do
  let a ← octet
  char '.'
  let b ← octet
  char '.'
  let c ← octet
  char '.'
  let d ← octet
  return ⟨[a, b, c, d]⟩

/-- Reads an item, after a `:` unless it is the first of its run. -/
def separated (first : Bool) (r : Reader α) : Reader α := do
  unless first do char ':'
  r

/-- Reads a run of colon-separated groups into at most `room` places.  Where two places are left,
an IPv4 address may stand for two groups; it ends the run, and the flag reports it.  The run ends
before the first item that cannot be read. -/
def groups : (room : Nat) → (first : Bool) → Reader (List Nat × Bool)
  | 0, _ => pure ([], false)
  | room + 1, first => fun cs =>
    let embedded := if room ≥ 1 then separated first ipv4 cs else none
    match embedded with
    | some (a, rest) => some ((a.groups, true), rest)
    | none =>
      match separated first (number 16 (some 4) true 65535) cs with
      | none => some (([], false), cs)
      | some (g, rest) =>
        match groups room false rest with
        | some ((gs, mapped), rest') => some ((g :: gs, mapped), rest')
        | none => none

/-- Reads an IPv6 address. -/
def ipv6 : Reader Ipv6Addr := do
  let (head, headV4) ← groups 8 true
  if head.length = 8 then return ⟨head⟩
  if headV4 then failure
  char ':'
  char ':'
  let (tail, _) ← groups (8 - (head.length + 1)) true
  return ⟨head ++ List.replicate (8 - head.length - tail.length) 0 ++ tail⟩

/-- Reads an endpoint number after its `:`. -/
def portNumber : Reader Nat := do
  char ':'
  number 10 none true 65535

/-- Reads a zone after its `%`. -/
def zone : Reader Nat := do
  char '%'
  number 10 none true 4294967295

/-- Reads an IPv4 socket address. -/
def socketV4 : Reader SocketAddr := do
  let ip ← ipv4
  let p ← portNumber
  return .v4 ip p

/-- Reads a bracketed IPv6 socket address. -/
def socketV6 : Reader SocketAddr := do
  char '['
  let ip ← ipv6
  let z ← zone <|> pure 0
  char ']'
  let p ← portNumber
  return .v6 ip p z

/-- Reads a socket address from the whole of a text.  An IPv4 reading that leaves text over is
not retried as IPv6, since the two forms start differently. -/
def parse? (s : String) : Option SocketAddr :=
  match socketV4 s.toList with
  | some (a, rest) => if rest.isEmpty then some a else none
  | none =>
    match socketV6 s.toList with
    | some (a, rest) => if rest.isEmpty then some a else none
    | none => none

end SocketAddr

namespace Ipv6Addr

/-- A number in lower-case hexadecimal. -/
def hex (n : Nat) : String := String.ofList (Nat.toDigits 16 n)

/-- Groups in hexadecimal, separated by `:`. -/
def hexGroups (gs : List Nat) : String := ":".intercalate (gs.map hex)

/-- The start and length of the first longest run of zero groups. -/
def longestZeroRun (gs : List Nat) : Nat × Nat :=
  let step := fun (acc : (Nat × Nat) × (Nat × Nat) × Nat) (g : Nat) =>
    let (best, cur, i) := acc
    let cur := if g = 0 then (if cur.2 = 0 then (i, 1) else (cur.1, cur.2 + 1)) else (0, 0)
    let best := if cur.2 > best.2 then cur else best
    (best, cur, i + 1)
  (gs.foldl step ((0, 0), (0, 0), 0)).1

/-- The text of an IPv6 address (RFC 5952). -/
def render (a : Ipv6Addr) : String :=
  match a.segments with
  | [0, 0, 0, 0, 0, 0xffff, hi, lo] =>
    "::ffff:" ++ Ipv4Addr.render ⟨[hi / 256, hi % 256, lo / 256, lo % 256]⟩
  | gs =>
    let (start, len) := longestZeroRun gs
    if len > 1 then hexGroups (gs.take start) ++ "::" ++ hexGroups (gs.drop (start + len))
    else hexGroups gs

end Ipv6Addr

namespace SocketAddr

/-- The text of a socket address. -/
def render : SocketAddr → String
  | .v4 ip p => ip.render ++ ":" ++ toString p
  | .v6 ip p z =>
    "[" ++ ip.render ++ (if z = 0 then "" else "%" ++ toString z) ++ "]:" ++ toString p

end SocketAddr

end DeferredDigest
