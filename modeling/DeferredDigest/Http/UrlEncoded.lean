import DeferredDigest.Text.Utf8
/-!
# URL-encoded forms

The `application/x-www-form-urlencoded` format of the WHATWG URL standard (§5.1): the input is cut
at every `&`, empty pieces are skipped, and each piece is cut at its first `=` into a name and a
value (a piece without `=` has the empty value).  Name and value are decoded alike: `+` stands for
a space, `%` and two hexadecimal digits stand for one byte, a `%` not followed by two hexadecimal
digits stands for itself, and the bytes are then read as UTF-8, lossily.
-/

namespace DeferredDigest.UrlEncoded

/-- The value of an ASCII hexadecimal digit. -/
def hexValue? (b : UInt8) : Option UInt8 :=
  if 48 ≤ b && b ≤ 57 then some (b - 48)
  else if 65 ≤ b && b ≤ 70 then some (b - 55)
  else if 97 ≤ b && b ≤ 102 then some (b - 87)
  else none

/-- Replaces each `%` followed by two hexadecimal digits by the byte they name. -/
def percentDecode : List UInt8 → List UInt8
  | 37 :: h :: l :: more =>
    match hexValue? h, hexValue? l with
    | some x, some y => (x * 16 + y) :: percentDecode more
    | _, _ => 37 :: percentDecode (h :: l :: more)
  | [] => []
  | b :: rest => b :: percentDecode rest

/-- Decodes a name or a value. -/
def decodeComponent (bs : List UInt8) : String :=
  Utf8.decodeLossy (percentDecode (bs.map fun b => if b = 43 then 32 else b))

/-- Cuts a piece at its first `=`. -/
def splitPair (piece : List UInt8) : List UInt8 × List UInt8 :=
  let (name, rest) := piece.span (· != 61)
  (name, rest.drop 1)

/-- The name-value pairs of a form, in order. -/
def pairs (input : List UInt8) : List (String × String) :=
  ((input.splitOn 38).filter (!·.isEmpty)).map fun piece =>
    let (name, value) := splitPair piece
    (decodeComponent name, decodeComponent value)

end DeferredDigest.UrlEncoded
