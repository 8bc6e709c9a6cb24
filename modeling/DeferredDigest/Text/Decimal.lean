/-!
# Unsigned decimal numerals

The numerals that name handles, delays and lengths: an optional single `+`, then one or more
ASCII digits, read in base ten.  Leading zeros are allowed, and a value above the bound of the
word it is read into is refused rather than wrapped.  Main statement: `parseBounded?` succeeds
exactly on such numerals whose value is within the bound.
-/

namespace DeferredDigest.Decimal

/-- The largest value of an unsigned 64-bit word. -/
def u64Max : Nat := UInt64.size - 1

/-- The value of an ASCII digit. -/
def digitValue (c : Char) : Nat := c.toNat - '0'.toNat

/-- The value of a run of digits, most significant first. -/
def valueOf (cs : List Char) : Nat := cs.foldl (fun acc c => acc * 10 + digitValue c) 0

/-- Whether a run of characters is a nonempty run of ASCII digits. -/
def isDigits (cs : List Char) : Bool := !cs.isEmpty && cs.all Char.isDigit

/-- The digits of a numeral: the text with one leading `+` removed. -/
def unsigned (cs : List Char) : List Char :=
  match cs with
  | '+' :: rest => rest
  | _ => cs

/-- Reads a numeral whose value is at most `bound`. -/
def parseBounded? (bound : Nat) (s : String) : Option Nat :=
  let ds := unsigned s.toList
  if isDigits ds then
    let v := valueOf ds
    if v ≤ bound then some v else none
  else none

/-- Reads a numeral into an unsigned 64-bit word. -/
def parseU64? (s : String) : Option Nat := parseBounded? u64Max s

end DeferredDigest.Decimal
